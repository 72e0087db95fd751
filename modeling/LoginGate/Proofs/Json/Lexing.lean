import LoginGate.Proofs.Json.Grammar

/-!
# Texts cut into tokens

Reading is two steps: a text is cut into tokens, and the tokens are taken in one by one
(`readChars?_eq`).  A text is cut only if it writes tokens, and then it is cut into these:

    Writes lexemes s → cut? .nothing s = lexemes.mapM Lexeme.token?         (cut?_of_writes)
    (cut? .nothing s).isSome → ∃ lexemes, Writes lexemes s                  (exists_writes)
-/

namespace LoginGate.Json

open LoginGate.Text

/-- The tokens of a text that goes on after a part of a token. -/
def cut? (p : Partial) : List Char → Option (List Token)
  | [] => p.finish?
  | c :: s => do
    let (q, tokens) ← p.next? c
    let rest ← cut? q s
    some (tokens ++ rest)

/-- The value of a finished run over tokens. -/
def run? (limit : Nat) (state : State) (tokens : List Token) : Option Json :=
  (tokens.foldlM (step? limit) state).bind State.value?

theorem run?_append (limit : Nat) (state : State) (tokens rest : List Token) :
    run? limit state (tokens ++ rest) =
      (tokens.foldlM (step? limit) state).bind fun state => run? limit state rest := by
  rw [run?, List.foldlM_append, Option.bind_eq_bind, Option.bind_assoc]
  rfl

theorem cut?_cons {p q : Partial} {c : Char} {tokens : List Token} (h : p.next? c = some (q, tokens))
    (s : List Char) : cut? p (c :: s) = (cut? q s).map (tokens ++ ·) := by
  rw [cut?, h, Option.bind_eq_bind, Option.bind_some]
  dsimp only
  cases cut? q s with
  | none => rfl
  | some rest => rfl

theorem cut?_next {p q : Partial} {c : Char} (h : p.next? c = some (q, [])) (s : List Char) :
    cut? p (c :: s) = cut? q s := by
  rw [cut?_cons h]
  exact congrFun Option.map_id (cut? q s)

theorem cut?_refused {p : Partial} {c : Char} (h : p.next? c = none) (s : List Char) :
    cut? p (c :: s) = none := by
  rw [cut?, h]
  rfl

/-- The two machines one after the other. -/
theorem readChars?_eq (limit : Nat) (s : List Char) :
    readChars? limit s = (cut? .nothing s).bind (run? limit ⟨[], .value⟩) := by
  suffices h : ∀ (p : Partial) (state : State),
      ((s.foldlM (feed? limit) (p, state)).bind fun now =>
        now.1.finish?.bind (run? limit now.2)) = (cut? p s).bind (run? limit state) from
    h .nothing ⟨[], .value⟩
  induction s with
  | nil => exact fun p state => rfl
  | cons c s ih =>
    intro p state
    rw [List.foldlM_cons, feed?]
    cases hnext : p.next? c with
    | none =>
      rw [cut?_refused hnext]
      rfl
    | some result =>
      obtain ⟨q, tokens⟩ := result
      have hread (now : State) := ih q now
      rw [cut?_cons hnext]
      cases hcut : cut? q s with
      | none =>
        -- whatever the tokens make, the rest is no text
        simp only [hcut, Option.bind_none] at hread
        cases hfold : tokens.foldlM (step? limit) state with
        | none => simp [hfold]
        | some now => simpa [hfold] using hread now
      | some rest =>
        simp only [hcut, Option.bind_some] at hread
        rw [Option.map_some, Option.bind_some, run?_append]
        cases hfold : tokens.foldlM (step? limit) state with
        | none => simp [hfold]
        | some now => simpa [hfold] using hread now

/-! ## Words -/

theorem cut?_letters {word : List Char} (h : ∀ c ∈ word, isLetter c = true) (letters s : List Char) :
    cut? (.word letters) (word ++ s) = cut? (.word (word.reverse ++ letters)) s := by
  induction word generalizing letters with
  | nil => rfl
  | cons c word ih =>
    have hnext := next?_moreLetters (h c List.mem_cons_self) letters
    rw [List.cons_append, cut?_next hnext, ih fun d hd => h d (List.mem_cons_of_mem c hd),
      List.reverse_cons, List.append_assoc]
    rfl

/-- What is no letter ends a word, and is taken in as if there had been none. -/
theorem next?_word {c : Char} (h : isLetter c = false) (letters : List Char) :
    (Partial.word letters).next? c =
      (Partial.nothing.next? c).map fun r => (r.1, .word letters.reverse :: r.2) := by
  unfold Partial.next?
  dsimp only
  by_cases hspace : isSpace c = true
  · rw [if_pos hspace, if_pos hspace]
    rfl
  by_cases hquote : c = '"'
  · rw [if_neg hspace, if_neg hspace, if_pos hquote, if_pos hquote]
    rfl
  rw [if_neg hspace, if_neg hspace, if_neg hquote, if_neg hquote]
  cases hmark : mark? c with
  | some token => rfl
  | none =>
    rw [isLetter, hmark] at h
    simp [hspace, hquote] at h

theorem cut?_word {word s : List Char} (hword : word ≠ [] ∧ ∀ c ∈ word, isLetter c = true)
    (hs : EndsRun isLetter s) :
    cut? .nothing (word ++ s) = (cut? .nothing s).map (.word word :: ·) := by
  obtain ⟨hne, hletters⟩ := hword
  obtain ⟨c, word, rfl⟩ := List.exists_cons_of_ne_nil hne
  have hfirst := next?_letter (hletters c List.mem_cons_self)
  have hreverse : (word.reverse ++ [c]).reverse = c :: word := by simp
  rw [List.cons_append, cut?_next hfirst,
    cut?_letters fun d hd => hletters d (List.mem_cons_of_mem c hd)]
  cases s with
  | nil =>
    rw [cut?, cut?]
    show some [Token.word (word.reverse ++ [c]).reverse] = _
    rw [hreverse]
    rfl
  | cons d s =>
    have hnext := next?_word (hs d rfl) (word.reverse ++ [c])
    rw [hreverse] at hnext
    cases hd : Partial.nothing.next? d with
    | none =>
      rw [hd, Option.map_none] at hnext
      rw [cut?_refused hnext, cut?_refused hd]
      rfl
    | some result =>
      obtain ⟨next, tokens⟩ := result
      rw [hd, Option.map_some] at hnext
      rw [cut?_cons hnext, cut?_cons hd, Option.map_map]
      rfl

/-! ## Quoted texts -/

theorem cut?_digits {digits : List Char} {n : Nat}
    (h : digits.length = 4 ∧ numeral? 16 digits = some n) (letters : List Char) (first : Option Nat)
    (s : List Char) : cut? (.hex letters first 0 0) (digits ++ s) =
      (Partial.escape? letters first n).bind fun p => cut? p s := by
  obtain ⟨hlength, hvalue⟩ := h
  match digits, hlength with
  | [a, b, c, d], _ =>
    obtain ⟨va, ha, hvalue⟩ := Option.bind_eq_some_iff.1 hvalue
    obtain ⟨vb, hb, hvalue⟩ := Option.bind_eq_some_iff.1 hvalue
    obtain ⟨vc, hc, hvalue⟩ := Option.bind_eq_some_iff.1 hvalue
    obtain ⟨vd, hd, hvalue⟩ := Option.bind_eq_some_iff.1 hvalue
    obtain rfl := Option.some.inj hvalue
    -- the value so far and the number of digits so far
    have hmore (value count v : Nat) (e : Char) (he : hexValue? e = some v) (hcount : count < 3) :
        (Partial.hex letters first value count).next? e =
          some (.hex letters first (value * 16 + v) (count + 1), []) := by
      rw [Partial.next?, he, Option.bind_eq_bind, Option.bind_some, if_pos hcount]
    have hlast (value : Nat) : (Partial.hex letters first value 3).next? d =
        (Partial.escape? letters first (value * 16 + vd)).map fun p => (p, []) := by
      have he : hexValue? d = some vd := hd
      rw [Partial.next?, he, Option.bind_eq_bind, Option.bind_some, if_neg (by decide)]
    simp only [List.cons_append, List.nil_append]
    rw [cut?_next (hmore _ _ va a ha (by decide)), cut?_next (hmore _ _ vb b hb (by decide)),
      cut?_next (hmore _ _ vc c hc (by decide))]
    cases hescape : Partial.escape? letters first ((((0 * 16 + va) * 16 + vb) * 16 + vc) * 16 + vd) with
    | none => rw [cut?_refused (by rw [hlast, hescape]; rfl), Option.bind_none]
    | some p => rw [cut?_next (by rw [hlast, hescape]; rfl), Option.bind_some]

theorem cut?_escape {letter c : Char} (h : simpleEscape? letter = some c) (letters s : List Char) :
    cut? (.quoted letters) ('\\' :: letter :: s) = cut? (.quoted (c :: letters)) s := by
  have hne : letter ≠ 'u' := by
    rintro rfl
    cases h
  have hnext : (Partial.escaped letters).next? letter = some (.quoted (c :: letters), []) := by
    rw [Partial.next?, if_neg hne, h]
    rfl
  rw [cut?_next (p := .quoted letters) rfl, cut?_next hnext]

theorem cut?_code {digits : List Char} {n : Nat}
    (h : digits.length = 4 ∧ numeral? 16 digits = some n) (letters s : List Char) :
    cut? (.quoted letters) ('\\' :: 'u' :: (digits ++ s)) =
      (Partial.escape? letters none n).bind fun p => cut? p s := by
  rw [cut?_next (p := .quoted letters) rfl, cut?_next (p := .escaped letters) rfl, cut?_digits h]

theorem cut?_half {digits : List Char} {n : Nat}
    (h : digits.length = 4 ∧ numeral? 16 digits = some n) (letters : List Char) (high : Nat)
    (s : List Char) :
    cut? (.half letters high) ('\\' :: 'u' :: (digits ++ s)) =
      (Partial.escape? letters (some high) n).bind fun p => cut? p s := by
  rw [cut?_next (p := .half letters high) rfl, cut?_next (p := .halfEscaped letters high) rfl,
    cut?_digits h]

/-- Nothing but a code may come behind the first half of a pair. -/
theorem cut?_half_of_not_code {pieces : List Piece}
    (h : ∀ digits n hn rest, pieces ≠ .code digits n hn :: rest) (letters : List Char) (high : Nat)
    (s : List Char) :
    cut? (.half letters high) (pieces.flatMap Piece.written ++ '"' :: s) = none := by
  cases pieces with
  | nil => exact cut?_refused rfl s
  | cons piece pieces =>
    cases piece with
    | plain c hc =>
      refine cut?_refused ?_ _
      rw [Partial.next?, if_neg hc.2.1]
    | escape letter c hc =>
      have hne : letter ≠ 'u' := by
        rintro rfl
        cases hc
      refine (cut?_next (p := .half letters high) rfl _).trans (cut?_refused ?_ _)
      rw [Partial.next?, if_neg hne]
    | code digits n hn => exact absurd rfl (h digits n hn pieces)

theorem flatMap_written_code {digits : List Char} {n : Nat}
    (h : digits.length = 4 ∧ numeral? 16 digits = some n) (pieces : List Piece) (s : List Char) :
    (Piece.code digits n h :: pieces).flatMap Piece.written ++ s =
      '\\' :: 'u' :: (digits ++ (pieces.flatMap Piece.written ++ s)) := by
  rw [List.flatMap_cons, List.append_assoc]
  rfl

theorem cut?_pieces (pieces : List Piece) (letters s : List Char) :
    cut? (.quoted letters) (pieces.flatMap Piece.written ++ '"' :: s) =
      (Piece.text? pieces).bind fun t =>
        (cut? .nothing s).map (.text (String.ofList (letters.reverse ++ t)) :: ·) := by
  -- the letters go on with `c`
  have hnext {o : Option (List Char)} (c : Char) {letters : List Char} {r : Option (List Token)}
      (h : r = o.bind fun t => (cut? .nothing s).map
        (.text (String.ofList ((c :: letters).reverse ++ t)) :: ·)) :
      r = (o.map (c :: ·)).bind fun t =>
        (cut? .nothing s).map (.text (String.ofList (letters.reverse ++ t)) :: ·) := by
    rw [h, Option.bind_map]
    refine congrArg o.bind (funext fun t => ?_)
    rw [List.reverse_cons, List.append_assoc]
    rfl
  induction pieces using Piece.text?.induct generalizing letters with
  | case1 =>
    have hquote : (Partial.quoted letters).next? '"' =
        some (.nothing, [.text (String.ofList letters.reverse)]) := rfl
    rw [Piece.text?, Option.bind_some, List.append_nil]
    exact cut?_cons hquote s
  | case2 c hc rest ih =>
    have hplain : (Partial.quoted letters).next? c = some (.quoted (c :: letters), []) := by
      rw [Partial.next?, if_neg hc.1, if_neg hc.2.1, if_neg (by omega)]
    rw [Piece.text?]
    exact hnext c ((cut?_next hplain _).trans (ih _))
  | case3 letter c hc rest ih =>
    rw [Piece.text?]
    exact hnext c ((cut?_escape hc letters _).trans (ih _))
  | case4 digits n hn hhigh digits' m hm rest hlow ih =>
    have hfirst : Partial.escape? letters none n = some (.half letters n) := if_pos hhigh
    have hpair : Partial.escape? letters (some n) m = some (.quoted
        (Char.ofNat (0x10000 + (n - 0xD800) * 1024 + (m - 0xDC00)) :: letters)) := if_pos hlow
    rw [Piece.text?, if_pos hhigh, if_pos hlow]
    refine hnext _ (Eq.trans ?_ (ih _))
    rw [flatMap_written_code, cut?_code hn, hfirst, Option.bind_some, flatMap_written_code,
      cut?_half hm, hpair, Option.bind_some]
  | case5 digits n hn hhigh digits' m hm rest hlow =>
    have hfirst : Partial.escape? letters none n = some (.half letters n) := if_pos hhigh
    have hpair : Partial.escape? letters (some n) m = none := if_neg hlow
    rw [Piece.text?, if_pos hhigh, if_neg hlow, Option.bind_none, flatMap_written_code, cut?_code hn,
      hfirst, Option.bind_some, flatMap_written_code, cut?_half hm, hpair, Option.bind_none]
  | case6 digits n hn rest hhigh hcode =>
    have hfirst : Partial.escape? letters none n = some (.half letters n) := if_pos hhigh
    have hnone : Piece.text? (.code digits n hn :: rest) = none := by
      rw [Piece.text?, if_pos hhigh]
      · intro digits m hm more heq
        exact hcode digits m hm more heq
    rw [hnone, Option.bind_none, flatMap_written_code, cut?_code hn, hfirst, Option.bind_some,
      cut?_half_of_not_code fun digits m hm more heq => hcode digits m hm more heq]
  | case7 digits n hn rest hhigh hlow =>
    have hfirst : Partial.escape? letters none n = none := by
      rw [Partial.escape?, if_neg hhigh, if_pos hlow]
    have hnone : Piece.text? (.code digits n hn :: rest) = none := by
      unfold Piece.text?
      rw [if_neg hhigh, if_pos hlow]
    rw [hnone, Option.bind_none, flatMap_written_code, cut?_code hn, hfirst, Option.bind_none]
  | case8 digits n hn rest hhigh hlow ih =>
    have hfirst : Partial.escape? letters none n = some (.quoted (Char.ofNat n :: letters)) := by
      rw [Partial.escape?, if_neg hhigh, if_neg hlow]
    have hsome : Piece.text? (.code digits n hn :: rest) = (Piece.text? rest).map (Char.ofNat n :: ·) := by
      conv => lhs; unfold Piece.text?
      rw [if_neg hhigh, if_neg hlow]
    rw [hsome]
    refine hnext _ (Eq.trans ?_ (ih _))
    rw [flatMap_written_code, cut?_code hn, hfirst, Option.bind_some]

/-! ## Tokens -/

/-- What a written token is read as; none if it is a quoted text that stands for none. -/
def Lexeme.token? : Lexeme → Option Token
  | .openList => some .openList
  | .closeList => some .closeList
  | .openObject => some .openObject
  | .closeObject => some .closeObject
  | .comma => some .comma
  | .colon => some .colon
  | .quoted pieces => (Piece.text? pieces).map fun s => .text (String.ofList s)
  | .word letters _ => some (.word letters)

/-- **Written tokens are cut out again.** -/
theorem cut?_of_writes {lexemes : List Lexeme} {s : List Char} (h : Writes lexemes s) :
    cut? .nothing s = lexemes.mapM Lexeme.token? := by
  induction h with
  | nil => rfl
  | @space lexemes c s hc _ ih =>
    have hnext : Partial.nothing.next? c = some (.nothing, []) := if_pos hc
    rw [cut?_next hnext, ih]
  | @lexeme lexemes l s hend _ ih =>
    -- a character that is a token by itself
    have hmark {c : Char} {token : Token} (hc : Partial.nothing.next? c = some (.nothing, [token])) :
        cut? .nothing (c :: s) =
          (lexemes.mapM Lexeme.token?).bind fun rest => some (token :: rest) := by
      rw [cut?_cons hc, ih]
      cases lexemes.mapM Lexeme.token? <;> rfl
    rw [List.mapM_cons]
    cases l with
    | openList => exact hmark rfl
    | closeList => exact hmark rfl
    | openObject => exact hmark rfl
    | closeObject => exact hmark rfl
    | comma => exact hmark rfl
    | colon => exact hmark rfl
    | quoted pieces =>
      have hstart : cut? .nothing ((Lexeme.quoted pieces).written ++ s) =
          cut? (.quoted []) (pieces.flatMap Piece.written ++ '"' :: s) := by
        rw [Lexeme.written, List.cons_append, List.append_assoc, cut?_next (p := .nothing) rfl]
        rfl
      rw [hstart, cut?_pieces, ih, Lexeme.token?]
      cases Piece.text? pieces with
      | none => rfl
      | some t => cases lexemes.mapM Lexeme.token? <;> rfl
    | word letters hletters =>
      rw [Lexeme.written, cut?_word hletters (hend rfl), ih, Lexeme.token?]
      cases lexemes.mapM Lexeme.token? <;> rfl

/-! ## Texts that are cut -/

theorem exists_next? {p : Partial} {c : Char} {s : List Char} (h : (cut? p (c :: s)).isSome) :
    ∃ q tokens, p.next? c = some (q, tokens) ∧ (cut? q s).isSome := by
  cases hnext : p.next? c with
  | none =>
    rw [cut?_refused hnext] at h
    cases h
  | some result =>
    obtain ⟨q, tokens⟩ := result
    refine ⟨q, tokens, rfl, ?_⟩
    rwa [cut?_cons hnext, Option.isSome_map] at h

/-- The first halves of pairs and whatever may stand in a quoted text. -/
inductive InText : Partial → Prop
  | quoted (letters : List Char) : InText (.quoted letters)
  | half (letters : List Char) (first : Nat) : InText (.half letters first)

theorem inText_of_escape? {letters : List Char} {first : Option Nat} {n : Nat} {p : Partial}
    (h : Partial.escape? letters first n = some p) : InText p := by
  unfold Partial.escape? at h
  split at h
  · split at h
    · obtain rfl := Option.some.inj h
      exact .half _ _
    · split at h
      · cases h
      · obtain rfl := Option.some.inj h
        exact .quoted _
  · split at h
    · obtain rfl := Option.some.inj h
      exact .quoted _
    · cases h

/-- Digits that are missing from a code. -/
theorem exists_digits {letters : List Char} {first : Option Nat} {count value : Nat} {s : List Char}
    (hcount : count ≤ 3) (h : (cut? (.hex letters first value count) s).isSome) :
    ∃ digits n rest p, s = digits ++ rest ∧ digits.length = 4 - count ∧
      digitsFrom? 16 value digits = some n ∧ InText p ∧ (cut? p rest).isSome := by
  induction s generalizing value count with
  | nil => cases h
  | cons c s ih =>
    obtain ⟨q, tokens, hnext, hrest⟩ := exists_next? h
    obtain ⟨d, hd, hnext⟩ := Option.bind_eq_some_iff.1 hnext
    by_cases hlast : count < 3
    · rw [if_pos hlast] at hnext
      obtain ⟨rfl, rfl⟩ := Prod.mk.inj (Option.some.inj hnext)
      obtain ⟨digits, n, rest, p, rfl, hlength, hvalue, hp⟩ := ih (by omega) hrest
      refine ⟨c :: digits, n, rest, p, rfl, ?_, ?_, hp⟩
      · rw [List.length_cons]
        omega
      · have hc : (digitValue? c).filter (· < 16) = some d := hd
        rw [digitsFrom?, hc]
        exact hvalue
    · rw [if_neg hlast] at hnext
      obtain ⟨p, hp, hq⟩ := Option.map_eq_some_iff.1 hnext
      obtain ⟨rfl, rfl⟩ := Prod.mk.inj hq
      refine ⟨[c], value * 16 + d, s, p, rfl, ?_, ?_, inText_of_escape? hp, hrest⟩
      · show 1 = 4 - count
        omega
      · have hc : (digitValue? c).filter (· < 16) = some d := hd
        rw [digitsFrom?, hc]
        rfl

theorem exists_code {letters : List Char} {first : Option Nat} {s : List Char}
    (h : (cut? (.hex letters first 0 0) s).isSome) :
    ∃ piece rest p, '\\' :: 'u' :: s = Piece.written piece ++ rest ∧ InText p ∧
      (cut? p rest).isSome := by
  obtain ⟨digits, n, rest, p, rfl, hlength, hvalue, hp⟩ := exists_digits (by decide) h
  have hnumeral : numeral? 16 digits = some n := by
    cases digits with
    | nil => cases hlength
    | cons c digits => exact hvalue
  exact ⟨.code digits n ⟨hlength, hnumeral⟩, rest, p, rfl, hp⟩

/-- A quoted text starts with a piece, unless it ends. -/
theorem exists_piece {p : Partial} (hp : InText p) {c : Char} {s : List Char}
    (h : (cut? p (c :: s)).isSome) :
    (c = '"' ∧ (cut? .nothing s).isSome) ∨ ∃ piece rest q, c :: s = Piece.written piece ++ rest ∧
      InText q ∧ (cut? q rest).isSome := by
  obtain ⟨q, tokens, hnext, hrest⟩ := exists_next? h
  cases hp with
  | quoted letters =>
    rw [Partial.next?] at hnext
    by_cases hquote : c = '"'
    · rw [if_pos hquote] at hnext
      obtain ⟨rfl, rfl⟩ := Prod.mk.inj (Option.some.inj hnext)
      exact .inl ⟨hquote, hrest⟩
    right
    rw [if_neg hquote] at hnext
    by_cases hbackslash : c = '\\'
    · obtain rfl := hbackslash
      rw [if_pos rfl] at hnext
      obtain ⟨rfl, rfl⟩ := Prod.mk.inj (Option.some.inj hnext)
      cases s with
      | nil => cases hrest
      | cons e s =>
        obtain ⟨q, tokens, hnext, hrest⟩ := exists_next? hrest
        rw [Partial.next?] at hnext
        by_cases hcode : e = 'u'
        · obtain rfl := hcode
          rw [if_pos rfl] at hnext
          obtain ⟨rfl, rfl⟩ := Prod.mk.inj (Option.some.inj hnext)
          exact exists_code hrest
        · rw [if_neg hcode] at hnext
          obtain ⟨d, hd, hq⟩ := Option.map_eq_some_iff.1 hnext
          obtain ⟨rfl, rfl⟩ := Prod.mk.inj hq
          exact ⟨.escape e d hd, s, _, rfl, .quoted _, hrest⟩
    · rw [if_neg hbackslash] at hnext
      split at hnext
      · cases hnext
      · next hcontrol =>
        obtain ⟨rfl, rfl⟩ := Prod.mk.inj (Option.some.inj hnext)
        exact ⟨.plain c ⟨hquote, hbackslash, by omega⟩, s, _, rfl, .quoted _, hrest⟩
  | half letters first =>
    right
    rw [Partial.next?] at hnext
    split at hnext
    · next hbackslash =>
      obtain rfl := hbackslash
      obtain ⟨rfl, rfl⟩ := Prod.mk.inj (Option.some.inj hnext)
      cases s with
      | nil => cases hrest
      | cons e s =>
        obtain ⟨q, tokens, hnext, hrest⟩ := exists_next? hrest
        rw [Partial.next?] at hnext
        split at hnext
        · next hcode =>
          obtain rfl := hcode
          obtain ⟨rfl, rfl⟩ := Prod.mk.inj (Option.some.inj hnext)
          exact exists_code hrest
        · cases hnext
    · cases hnext

theorem length_written_pos (piece : Piece) : 0 < piece.written.length := by
  cases piece <;> exact Nat.succ_pos _

theorem exists_pieces {p : Partial} (hp : InText p) {s : List Char} (h : (cut? p s).isSome) :
    ∃ (pieces : List Piece) (rest : List Char), s = pieces.flatMap Piece.written ++ '"' :: rest ∧
      (cut? .nothing rest).isSome := by
  induction hlength : s.length using Nat.strongRecOn generalizing p s with
  | ind length ih =>
    cases s with
    | nil =>
      cases hp with
      | quoted letters => cases h
      | half letters first => cases h
    | cons c s =>
      rcases exists_piece hp h with ⟨rfl, hrest⟩ | ⟨piece, rest, q, hs, hq, hrest⟩
      · exact ⟨[], s, rfl, hrest⟩
      · have hshort : rest.length < length := by
          have hsum := congrArg List.length hs
          have := length_written_pos piece
          rw [List.length_append] at hsum
          omega
        obtain ⟨pieces, more, rfl, hmore⟩ := ih _ hshort hq hrest rfl
        refine ⟨piece :: pieces, more, ?_, hmore⟩
        rw [hs, List.flatMap_cons, List.append_assoc]

/-- The written form of a character that is a token by itself. -/
theorem exists_lexeme_of_mark? {c : Char} {token : Token} (h : mark? c = some token) :
    ∃ l : Lexeme, l.written = [c] ∧ l.isWord = false := by
  unfold mark? at h
  split at h
  · next hc => exact ⟨.openList, by rw [hc]; rfl, rfl⟩
  split at h
  · next hc => exact ⟨.closeList, by rw [hc]; rfl, rfl⟩
  split at h
  · next hc => exact ⟨.openObject, by rw [hc]; rfl, rfl⟩
  split at h
  · next hc => exact ⟨.closeObject, by rw [hc]; rfl, rfl⟩
  split at h
  · next hc => exact ⟨.comma, by rw [hc]; rfl, rfl⟩
  split at h
  · next hc => exact ⟨.colon, by rw [hc]; rfl, rfl⟩
  · cases h

/-- **Only texts that write tokens are cut.** -/
theorem exists_writes {s : List Char} (h : (cut? .nothing s).isSome) :
    ∃ lexemes, Writes lexemes s := by
  induction hlength : s.length using Nat.strongRecOn generalizing s with
  | ind length ih =>
    cases s with
    | nil => exact ⟨[], .nil⟩
    | cons c s =>
      by_cases hletter : isLetter c = true
      · -- the whole word at once
        have hword : c :: s.takeWhile isLetter ≠ [] ∧
            ∀ d ∈ c :: s.takeWhile isLetter, isLetter d = true := by
          refine ⟨List.cons_ne_nil _ _, fun d hd => ?_⟩
          rcases List.mem_cons.1 hd with rfl | hd
          · exact hletter
          · exact List.mem_takeWhile_imp hd
        have hends : EndsRun isLetter (s.dropWhile isLetter) := endsRun_dropWhile isLetter s
        have hsplit : c :: s = c :: s.takeWhile isLetter ++ s.dropWhile isLetter := by
          rw [List.cons_append, List.takeWhile_append_dropWhile]
        have hshort : (s.dropWhile isLetter).length < length := by
          have hsum := congrArg List.length hsplit
          rw [hlength, List.length_append, List.length_cons] at hsum
          omega
        rw [hsplit, cut?_word hword hends, Option.isSome_map] at h
        obtain ⟨lexemes, hlexemes⟩ := ih _ hshort h rfl
        refine ⟨.word _ hword :: lexemes, ?_⟩
        rw [hsplit]
        exact .lexeme (.word _ hword) (fun _ => hends) hlexemes
      obtain ⟨q, tokens, hnext, hrest⟩ := exists_next? h
      rw [Partial.next?] at hnext
      by_cases hspace : isSpace c = true
      · rw [if_pos hspace] at hnext
        obtain ⟨rfl, rfl⟩ := Prod.mk.inj (Option.some.inj hnext)
        obtain ⟨lexemes, hlexemes⟩ := ih s.length (hlength ▸ Nat.lt_succ_self _) hrest rfl
        exact ⟨lexemes, .space hspace hlexemes⟩
      rw [if_neg hspace] at hnext
      by_cases hquote : c = '"'
      · obtain rfl := hquote
        rw [if_pos rfl] at hnext
        obtain ⟨rfl, rfl⟩ := Prod.mk.inj (Option.some.inj hnext)
        obtain ⟨pieces, rest, rfl, hmore⟩ := exists_pieces (.quoted []) hrest
        have hshort : rest.length < length := by
          rw [List.length_cons, List.length_append, List.length_cons] at hlength
          omega
        obtain ⟨lexemes, hlexemes⟩ := ih _ hshort hmore rfl
        have hwrites := Writes.lexeme (.quoted pieces) Bool.noConfusion hlexemes
        rw [Lexeme.written, List.cons_append, List.append_assoc] at hwrites
        exact ⟨_, hwrites⟩
      rw [if_neg hquote] at hnext
      cases hmark : mark? c with
      | none =>
        rw [isLetter, hmark] at hletter
        simp [hspace, hquote] at hletter
      | some token =>
        rw [hmark] at hnext
        obtain ⟨rfl, rfl⟩ := Prod.mk.inj (Option.some.inj hnext)
        obtain ⟨l, hl, hword⟩ := exists_lexeme_of_mark? hmark
        obtain ⟨lexemes, hlexemes⟩ := ih s.length (hlength ▸ Nat.lt_succ_self _) hrest rfl
        have hwrites := Writes.lexeme l (fun h => absurd (hword.symm.trans h) Bool.false_ne_true)
          hlexemes
        rw [hl] at hwrites
        exact ⟨_, hwrites⟩

end LoginGate.Json
