import LoginGate.Json.Reader
import LoginGate.Json.Writer
import LoginGate.Proofs.Json.Members
import LoginGate.Proofs.Text.Numerals
import Mathlib.Data.List.TakeWhile

/-!
# Written values are read back

    read? limit (pretty v ++ "\n") = some v                    (read?_pretty)

for every `v` that is tidy and nested no deeper than `limit`.  A word is a token only when the
character after it comes, so what is proved of each value is that, in front of a comma or a line
break, reading goes on as if it were finished.
-/

namespace LoginGate.Json

open LoginGate.Text LoginGate.Number

variable {limit : Nat}

def feedAll? (limit : Nat) (now : Partial × State) (s : List Char) : Option (Partial × State) :=
  s.foldlM (feed? limit) now

theorem feedAll?_cons (now : Partial × State) (c : Char) (s : List Char) :
    feedAll? limit now (c :: s) = (feed? limit now c).bind fun now => feedAll? limit now s := rfl

theorem feedAll?_next {p q : Partial} {c : Char} (h : p.next? c = some (q, [])) (state : State)
    (s : List Char) : feedAll? limit (p, state) (c :: s) = feedAll? limit (q, state) s := by
  rw [feedAll?_cons, feed?, h]
  rfl

theorem feedAll?_mark {c : Char} {token : Token} (h : Partial.nothing.next? c = some (.nothing, [token]))
    {state next : State} (hstep : step? limit state token = some next) (s : List Char) :
    feedAll? limit (.nothing, state) (c :: s) = feedAll? limit (.nothing, next) s := by
  rw [feedAll?_cons, feed?, h]
  simp only [Option.bind_eq_bind, Option.bind_some, List.foldlM_cons, hstep, List.foldlM_nil]
  rfl

theorem feedAll?_newLine (level : Nat) (state : State) (s : List Char) :
    feedAll? limit (.nothing, state) (newLine level ++ s) = feedAll? limit (.nothing, state) s := by
  have hspaces (n : Nat) : feedAll? limit (.nothing, state) (List.replicate n ' ' ++ s) =
      feedAll? limit (.nothing, state) s := by
    induction n with
    | zero => rfl
    | succ n ih =>
      rw [List.replicate_succ, List.cons_append, feedAll?_next (p := .nothing) rfl, ih]
  rw [newLine, List.cons_append, feedAll?_next (p := .nothing) rfl, hspaces]

/-! ## Quoted texts -/

theorem hexValue?_hexDigit {n : Nat} (h : n < 16) : hexValue? (hexDigit n) = some n := by
  have : ∀ n < 16, hexValue? (hexDigit n) = some n := by decide
  exact this n h

theorem next?_hexDigit (letters : List Char) (value : Nat) {n count : Nat} (hn : n < 16)
    (hcount : count < 3) :
    (Partial.hex letters none value count).next? (hexDigit n) =
      some (.hex letters none (value * 16 + n) (count + 1), []) := by
  rw [Partial.next?, hexValue?_hexDigit hn, Option.bind_eq_bind, Option.bind_some, if_pos hcount]

theorem next?_lastHexDigit (letters : List Char) {value n : Nat} (hn : n < 16)
    (hsmall : value * 16 + n < 0xD800) :
    (Partial.hex letters none value 3).next? (hexDigit n) =
      some (.quoted (Char.ofNat (value * 16 + n) :: letters), []) := by
  have hhigh : isHighHalf (value * 16 + n) = false := by
    rw [isHighHalf, decide_eq_false (by omega), Bool.false_and]
  have hlow : isLowHalf (value * 16 + n) = false := by
    rw [isLowHalf, decide_eq_false (by omega), Bool.false_and]
  rw [Partial.next?, hexValue?_hexDigit hn, Option.bind_eq_bind, Option.bind_some,
    if_neg (by decide), Partial.escape?, hhigh, hlow]
  rfl

/-- A control is read back from four digits, two of them zero. -/
theorem feedAll?_control {c : Char} (hc : c.toNat < 32) (letters : List Char) (state : State)
    (s : List Char) :
    feedAll? limit (.quoted letters, state)
        (['\\', 'u', '0', '0', hexDigit (c.toNat / 16), hexDigit (c.toNat % 16)] ++ s) =
      feedAll? limit (.quoted (c :: letters), state) s := by
  have hzero : '0' = hexDigit 0 := by decide
  have hvalue : ((0 * 16 + 0) * 16 + 0) * 16 + c.toNat / 16 = c.toNat / 16 := Nat.zero_add _
  simp only [List.cons_append, List.nil_append]
  rw [feedAll?_next (p := .quoted letters) rfl, feedAll?_next (p := .escaped letters) rfl, hzero,
    feedAll?_next (next?_hexDigit letters 0 (by decide) (by decide)),
    feedAll?_next (next?_hexDigit letters _ (by decide) (by decide)),
    feedAll?_next (next?_hexDigit letters _ (by omega) (by decide)), hvalue,
    feedAll?_next (next?_lastHexDigit letters (by omega) (by omega)), Nat.div_add_mod',
    Char.ofNat_toNat]

theorem feedAll?_escapeChar (c : Char) (letters : List Char) (state : State) (s : List Char) :
    feedAll? limit (.quoted letters, state) (escapeChar c ++ s) =
      feedAll? limit (.quoted (c :: letters), state) s := by
  -- a backslash and one letter
  have hescape (e : Char) (hu : e ≠ 'u') (hsimple : simpleEscape? e = some c) :
      feedAll? limit (.quoted letters, state) (['\\', e] ++ s) =
        feedAll? limit (.quoted (c :: letters), state) s := by
    have hnext : (Partial.escaped letters).next? e = some (.quoted (c :: letters), []) := by
      rw [Partial.next?, if_neg hu, hsimple]
      rfl
    exact (feedAll?_next rfl state (e :: s)).trans (feedAll?_next hnext state s)
  have hofNat (n : Nat) (h : c.toNat = n) : Char.ofNat n = c := by rw [← h, Char.ofNat_toNat]
  rw [escapeChar]
  split
  · rename_i hc
    exact hescape '"' (by decide) (by rw [hc]; rfl)
  split
  · rename_i hc
    exact hescape '\\' (by decide) (by rw [hc]; rfl)
  split
  · rename_i hc
    exact hescape 'n' (by decide) (by rw [hc]; rfl)
  split
  · rename_i hc
    exact hescape 'r' (by decide) (by rw [hc]; rfl)
  split
  · rename_i hc
    exact hescape 't' (by decide) (by rw [hc]; rfl)
  split
  · rename_i hc
    exact hescape 'b' (by decide) (by rw [← hofNat 8 hc]; rfl)
  split
  · rename_i hc
    exact hescape 'f' (by decide) (by rw [← hofNat 12 hc]; rfl)
  split
  · rename_i hcontrol
    exact feedAll?_control hcontrol letters state s
  · rename_i hquote hbackslash _ _ _ _ _ hcontrol
    refine feedAll?_next ?_ state s
    rw [Partial.next?, if_neg hquote, if_neg hbackslash, if_neg hcontrol]

theorem feedAll?_letters (text letters : List Char) (state : State) (s : List Char) :
    feedAll? limit (.quoted letters, state) (text.flatMap escapeChar ++ s) =
      feedAll? limit (.quoted (text.reverse ++ letters), state) s := by
  induction text generalizing letters with
  | nil => rfl
  | cons c text ih =>
    rw [List.flatMap_cons, List.append_assoc, feedAll?_escapeChar, ih, List.reverse_cons,
      List.append_assoc]
    rfl

/-- A quoted text is one token. -/
theorem feedAll?_quoted (text : String) {state next : State}
    (hstep : step? limit state (.text text) = some next) (s : List Char) :
    feedAll? limit (.nothing, state) (quoted text.toList ++ s) =
      feedAll? limit (.nothing, next) s := by
  rw [quoted, List.append_assoc, List.cons_append, feedAll?_next (p := .nothing) rfl,
    feedAll?_letters, List.append_nil, List.singleton_append, feedAll?_cons, feed?, Partial.next?,
    if_pos rfl, List.reverse_reverse, String.ofList_toList]
  simp only [Option.bind_eq_bind, Option.bind_some, List.foldlM_cons, hstep, List.foldlM_nil]
  rfl

/-! ## Words -/

/-- May this character stand in a word? -/
def isLetter (c : Char) : Bool := !isSpace c && c != '"' && (mark? c).isNone

theorem isLetter_spec {c : Char} (h : isLetter c = true) :
    isSpace c = false ∧ c ≠ '"' ∧ mark? c = none := by
  simpa [isLetter, and_assoc] using h

theorem isLetter_of_isDigit {c : Char} (h : isDigit c = true) : isLetter c = true :=
  of_forall_lt (P := fun c => isDigit c = true → isLetter c = true) (by decide) (lt_of_isDigit h) h

theorem next?_letter {c : Char} (h : isLetter c = true) :
    Partial.nothing.next? c = some (.word [c], []) := by
  obtain ⟨hspace, hquote, hmark⟩ := isLetter_spec h
  rw [Partial.next?, hspace, hmark, if_neg Bool.false_ne_true, if_neg hquote]

theorem next?_moreLetters {c : Char} (h : isLetter c = true) (letters : List Char) :
    (Partial.word letters).next? c = some (.word (c :: letters), []) := by
  obtain ⟨hspace, hquote, hmark⟩ := isLetter_spec h
  rw [Partial.next?, hspace, hmark, if_neg Bool.false_ne_true, if_neg hquote]

/-- The characters that come behind a value. -/
def EndsValue (c : Char) : Prop := c = ',' ∨ c = '\n'

theorem feedAll?_moreLetters {word : List Char} (h : ∀ c ∈ word, isLetter c = true) (letters : List Char)
    (state : State) (s : List Char) :
    feedAll? limit (.word letters, state) (word ++ s) =
      feedAll? limit (.word (word.reverse ++ letters), state) s := by
  induction word generalizing letters with
  | nil => rfl
  | cons c word ih =>
    have hnext := next?_moreLetters (h c List.mem_cons_self) letters
    rw [List.cons_append, feedAll?_next hnext, ih (fun d hd => h d (List.mem_cons_of_mem c hd)),
      List.reverse_cons, List.append_assoc]
    rfl

/-- A word is one token; in front of what ends it, reading goes on as if it had ended already. -/
theorem feedAll?_word {word : List Char} (hne : word ≠ []) (h : ∀ c ∈ word, isLetter c = true) {c : Char}
    (hc : EndsValue c) {state next : State} (hstep : step? limit state (.word word) = some next)
    (s : List Char) :
    feedAll? limit (.nothing, state) (word ++ c :: s) =
      feedAll? limit (.nothing, next) (c :: s) := by
  obtain ⟨d, word, rfl⟩ := List.exists_cons_of_ne_nil hne
  have hfirst := next?_letter (h d List.mem_cons_self)
  have hword : (word.reverse ++ [d]).reverse = d :: word := by simp
  rw [List.cons_append, feedAll?_next hfirst,
    feedAll?_moreLetters fun e he => h e (List.mem_cons_of_mem d he), feedAll?_cons, feedAll?_cons,
    feed?, feed?]
  obtain rfl | rfl := hc
  · have hend : (Partial.word (word.reverse ++ [d])).next? ',' =
        some (.nothing, [.word (word.reverse ++ [d]).reverse, .comma]) := rfl
    rw [hend, hword]
    simp only [Option.bind_eq_bind, Option.bind_some, List.foldlM_cons, hstep]
    rfl
  · have hend : (Partial.word (word.reverse ++ [d])).next? '\n' =
        some (.nothing, [.word (word.reverse ++ [d]).reverse]) := rfl
    rw [hend, hword]
    simp only [Option.bind_eq_bind, Option.bind_some, List.foldlM_cons, hstep]
    rfl

/-! ## Numbers -/

theorem le_ofDigitChars (s : List Char) (acc : Nat) : acc ≤ Nat.ofDigitChars 10 s acc := by
  rw [Nat.ofDigitChars_eq_ofDigitChars_zero]
  have : 1 * acc ≤ 10 ^ s.length * acc := Nat.mul_le_mul_right acc (Nat.pow_pos (by decide))
  omega

/-- Digits whose value fits are all taken. -/
theorem ofWhole_digits {s : List Char} {acc : Nat}
    (hfits : Nat.ofDigitChars 10 s acc < twoTo 64) :
    Significand.ofWhole acc s = ⟨Nat.ofDigitChars 10 s acc, 0⟩ := by
  induction s generalizing acc with
  | nil => rfl
  | cons c s ih =>
    have hnext : 10 * acc + (c.toNat - '0'.toNat) = acc * 10 + (c.toNat - 48) :=
      congrArg (· + (c.toNat - 48)) (Nat.mul_comm 10 acc)
    rw [Nat.ofDigitChars_cons, hnext] at hfits ⊢
    have hle := le_ofDigitChars s (acc * 10 + (c.toNat - 48))
    have hlimit : ¬ Significand.limit < acc * 10 + (c.toNat - 48) :=
      Nat.not_lt.2 (Nat.le_sub_one_of_lt (Nat.lt_of_le_of_lt hle hfits))
    rw [Significand.ofWhole, if_neg hlimit]
    exact ih hfits

theorem number?_decimal {n : Nat} (h : n < twoTo 64) : number? (decimal n) = some (.whole n) := by
  have hdigits : ∀ c ∈ decimal n, isDigit c = true := fun c hc => isDigit_of_mem_decimal hc
  have hspan : spanDigits (decimal n) = (decimal n, []) :=
    Prod.ext (List.takeWhile_eq_self_iff.2 hdigits) (List.dropWhile_eq_nil_iff.2 hdigits)
  have hvalue : Nat.ofDigitChars 10 (decimal n) 0 = n :=
    Nat.ofDigitChars_toDigits (by decide) (by decide)
  have hwhole : Significand.ofWhole 0 (decimal n) = ⟨n, 0⟩ := by
    rw [ofWhole_digits (by rwa [hvalue]), hvalue]
  have hunsigned : unsigned? false (decimal n) [] = some (.whole n) := by
    rw [unsigned?, hwhole]
    rfl
  have hsign : '-' ∉ decimal n := not_mem_of_digits hdigits (by decide)
  have hpadded := decimal_ne_padded n
  have hnil := decimal_ne_nil n
  generalize decimal n = s at hspan hunsigned hsign hpadded hnil
  unfold number?
  split
  rename_i negative rest hmatch
  split at hmatch
  · exact absurd List.mem_cons_self hsign
  · obtain ⟨rfl, rfl⟩ := hmatch
    rw [hspan]
    split
    · rename_i heq
      exact absurd (congrArg Prod.fst heq) hnil
    · rename_i heq
      exact absurd (congrArg Prod.fst heq) (hpadded _ _)
    · rename_i heq
      obtain ⟨rfl, rfl⟩ := heq
      exact hunsigned

theorem wordValue?_decimal {n : Nat} (h : n < twoTo 64) :
    wordValue? (decimal n) = some (.ofNat n) := by
  have hword (w : List Char) (hw : w.any (fun c => !isDigit c) = true) : decimal n ≠ w :=
    ne_of_digits (fun c hc => isDigit_of_mem_decimal hc) hw
  rw [wordValue?, if_neg (hword _ (by decide)), if_neg (hword _ (by decide)),
    if_neg (hword _ (by decide)), number?_decimal h]
  rfl

/-! ## Values -/

/-- Reading goes on behind a value as if it were finished. -/
def ReadsValue (limit depth : Nat) (v : Json) : Prop :=
  ∀ (level : Nat) (frames : List Frame) (awaiting : Awaiting) (c : Char) (s : List Char),
    EndsValue c → frames.length + depth ≤ limit → awaiting = .value ∨ awaiting = .itemOrEnd →
      feedAll? limit (.nothing, ⟨frames, awaiting⟩) (prettyChars level v ++ c :: s) =
        feedAll? limit (.nothing, ⟨frames, .commaOrEnd v⟩) (c :: s)

theorem step?_begin {awaiting : Awaiting} (h : awaiting = .value ∨ awaiting = .itemOrEnd)
    {token : Token} (htoken : token ≠ .closeList) (frames : List Frame) :
    step? limit ⟨frames, awaiting⟩ token = beginValue? limit frames token := by
  obtain rfl | rfl := h
  · rfl
  · cases frames with
    | nil => rfl
    | cons frame frames =>
      cases frame with
      | object => rfl
      | list items => cases token <;> first | rfl | exact absurd rfl htoken

theorem readsValue_word {depth : Nat} {v : Json} {word : List Char}
    (hpretty : ∀ level, prettyChars level v = word) (hne : word ≠ [])
    (hletters : ∀ c ∈ word, isLetter c = true) (hvalue : wordValue? word = some v) :
    ReadsValue limit depth v := by
  intro level frames awaiting c s hc _ hawaiting
  rw [hpretty]
  refine feedAll?_word hne hletters hc ?_ s
  rw [step?_begin hawaiting (by simp), beginValue?, hvalue]
  rfl

theorem readsValue_text {depth : Nat} (text : String) : ReadsValue limit depth (.text text) := by
  intro level frames awaiting c s hc _ hawaiting
  rw [prettyChars]
  exact feedAll?_quoted text (step?_begin hawaiting (by simp) frames) (c :: s)

/-! ## Lists -/

theorem feedAll?_openList {awaiting : Awaiting} (h : awaiting = .value ∨ awaiting = .itemOrEnd)
    {frames : List Frame} (hroom : frames.length < limit) (s : List Char) :
    feedAll? limit (.nothing, ⟨frames, awaiting⟩) ('[' :: s) =
      feedAll? limit (.nothing, ⟨.list [] :: frames, .itemOrEnd⟩) s := by
  refine feedAll?_mark rfl ?_ s
  rw [step?_begin h (by simp), beginValue?, if_pos hroom]

theorem feedAll?_items {depth : Nat} {v : Json} {items : List Json}
    (h : ∀ w ∈ v :: items, ReadsValue limit depth w) {frames : List Frame}
    (hroom : frames.length + 1 + depth ≤ limit) {awaiting : Awaiting}
    (hawaiting : awaiting = .value ∨ awaiting = .itemOrEnd) (level : Nat) (done : List Json)
    (s : List Char) :
    feedAll? limit (.nothing, ⟨.list done :: frames, awaiting⟩)
        (prettyItems (level + 1) (v :: items) ++ (newLine level ++ ']' :: s)) =
      feedAll? limit (.nothing, ⟨frames, .commaOrEnd (.list (done.reverse ++ v :: items))⟩) s := by
  induction items generalizing v done awaiting with
  | nil =>
    have hread := h v List.mem_cons_self (level + 1) (.list done :: frames) awaiting '\n'
      (List.replicate (2 * level) ' ' ++ ']' :: s) (.inr rfl) hroom hawaiting
    have hend : step? limit ⟨.list done :: frames, .commaOrEnd v⟩ .closeList =
        some ⟨frames, .commaOrEnd (.list (done.reverse ++ [v]))⟩ := by
      rw [← List.reverse_cons]
      rfl
    rw [prettyItems, List.append_assoc, feedAll?_newLine]
    refine hread.trans ?_
    exact (feedAll?_newLine level _ (']' :: s)).trans (feedAll?_mark rfl hend s)
  | cons w items ih =>
    have hread := h v List.mem_cons_self (level + 1) (.list done :: frames) awaiting ','
      (prettyItems (level + 1) (w :: items) ++ (newLine level ++ ']' :: s)) (.inl rfl) hroom hawaiting
    have hcomma : step? limit ⟨.list done :: frames, .commaOrEnd v⟩ .comma =
        some ⟨.list (v :: done) :: frames, .value⟩ := rfl
    have hothers := ih (fun x hx => h x (List.mem_cons_of_mem v hx)) (.inl rfl) (v :: done)
    have hitems : prettyItems (level + 1) (v :: w :: items) =
        newLine (level + 1) ++ prettyChars (level + 1) v ++
          ',' :: prettyItems (level + 1) (w :: items) := by
      rw [prettyItems]
      simp
    rw [hitems, List.append_assoc, List.append_assoc, feedAll?_newLine]
    refine hread.trans ((feedAll?_mark rfl hcomma _).trans ?_)
    rw [hothers, List.reverse_cons, List.append_assoc]
    rfl

theorem readsValue_list {depth : Nat} {items : List Json}
    (h : ∀ v ∈ items, ReadsValue limit depth v) : ReadsValue limit (depth + 1) (.list items) := by
  intro level frames awaiting c s _ hroom hawaiting
  have hopen := @feedAll?_openList limit awaiting hawaiting frames (by omega)
  cases items with
  | nil =>
    have hclose : step? limit ⟨.list [] :: frames, .itemOrEnd⟩ .closeList =
        some ⟨frames, .commaOrEnd (.list [])⟩ := rfl
    rw [prettyChars, List.cons_append, hopen]
    exact feedAll?_mark rfl hclose (c :: s)
  | cons v items =>
    have hitems := @feedAll?_items limit depth v items h frames (by omega) .itemOrEnd (.inr rfl)
      level [] (c :: s)
    rw [prettyChars, List.append_assoc, List.append_assoc, List.cons_append, hopen]
    exact hitems

/-! ## Objects -/

theorem feedAll?_openObject {awaiting : Awaiting} (h : awaiting = .value ∨ awaiting = .itemOrEnd)
    {frames : List Frame} (hroom : frames.length < limit) (s : List Char) :
    feedAll? limit (.nothing, ⟨frames, awaiting⟩) ('\x7B' :: s) =
      feedAll? limit (.nothing, ⟨.object [] "" :: frames, .keyOrEnd⟩) s := by
  refine feedAll?_mark rfl ?_ s
  rw [step?_begin h (by simp), beginValue?, if_pos hroom]

theorem feedAll?_key {key : String} {state : State} {frames : List Frame} {done : KeyMap Json}
    (hkey : step? limit state (.text key) = some ⟨frames, .colon done key⟩) (level : Nat)
    (s : List Char) :
    feedAll? limit (.nothing, state) (newLine level ++ quoted key.toList ++ ':' :: ' ' :: s) =
      feedAll? limit (.nothing, ⟨.object done key :: frames, .value⟩) s := by
  have hcolon : step? limit ⟨frames, .colon done key⟩ .colon =
      some ⟨.object done key :: frames, .value⟩ := rfl
  rw [List.append_assoc, feedAll?_newLine, feedAll?_quoted key hkey, feedAll?_mark rfl hcolon,
    feedAll?_next (p := .nothing) rfl]

theorem feedAll?_members {depth : Nat} {member : String × Json} {members done : List (String × Json)}
    (h : ∀ m ∈ member :: members, ReadsValue limit depth m.2) {frames : List Frame}
    (hroom : frames.length + 1 + depth ≤ limit)
    (hascending : KeyMap.Ascending (done ++ member :: members)) {state : State}
    (hkey : ∀ key, step? limit state (.text key) = some ⟨frames, .colon done key⟩) (level : Nat)
    (s : List Char) :
    feedAll? limit (.nothing, state)
        (prettyMembers (level + 1) (member :: members) ++ (newLine level ++ '\x7D' :: s)) =
      feedAll? limit (.nothing, ⟨frames, .commaOrEnd (.object (done ++ member :: members))⟩) s := by
  induction members generalizing member done state with
  | nil =>
    obtain ⟨key, v⟩ := member
    have hread := h (key, v) List.mem_cons_self (level + 1) (.object done key :: frames) .value '\n'
      (List.replicate (2 * level) ' ' ++ '\x7D' :: s) (.inr rfl) hroom (.inl rfl)
    have hend : step? limit ⟨.object done key :: frames, .commaOrEnd v⟩ .closeObject =
        some ⟨frames, .commaOrEnd (.object (done ++ [(key, v)]))⟩ := by
      rw [← hascending.insert_next]
      rfl
    rw [prettyMembers, List.append_assoc, List.cons_append, List.cons_append,
      feedAll?_key (hkey key)]
    refine hread.trans ?_
    exact (feedAll?_newLine level _ ('\x7D' :: s)).trans (feedAll?_mark rfl hend s)
  | cons next members ih =>
    obtain ⟨key, v⟩ := member
    have hread := h (key, v) List.mem_cons_self (level + 1) (.object done key :: frames) .value ','
      (prettyMembers (level + 1) (next :: members) ++ (newLine level ++ '\x7D' :: s)) (.inl rfl) hroom
      (.inl rfl)
    have hcomma : step? limit ⟨.object done key :: frames, .commaOrEnd v⟩ .comma =
        some ⟨frames, .key (done ++ [(key, v)])⟩ := by
      rw [← hascending.insert_next]
      rfl
    rw [List.append_cons done (key, v) (next :: members)] at hascending ⊢
    have hothers := @ih next (done ++ [(key, v)]) (fun m hm => h m (List.mem_cons_of_mem _ hm))
      hascending ⟨frames, .key (done ++ [(key, v)])⟩ (fun _ => rfl)
    have hmembers : prettyMembers (level + 1) ((key, v) :: next :: members) =
        newLine (level + 1) ++ quoted key.toList ++ ':' :: ' ' :: prettyChars (level + 1) v ++
          ',' :: prettyMembers (level + 1) (next :: members) := by
      rw [prettyMembers]
      simp
    rw [hmembers, List.append_assoc, List.append_assoc, List.cons_append, List.cons_append,
      feedAll?_key (hkey key)]
    exact hread.trans ((feedAll?_mark rfl hcomma _).trans hothers)

theorem readsValue_object {depth : Nat} {members : List (String × Json)}
    (hascending : KeyMap.Ascending members) (h : ∀ m ∈ members, ReadsValue limit depth m.2) :
    ReadsValue limit (depth + 1) (.object members) := by
  intro level frames awaiting c s _ hroom hawaiting
  have hopen := @feedAll?_openObject limit awaiting hawaiting frames (by omega)
  cases members with
  | nil =>
    have hclose : step? limit ⟨.object [] "" :: frames, .keyOrEnd⟩ .closeObject =
        some ⟨frames, .commaOrEnd (.object [])⟩ := rfl
    rw [prettyChars, List.cons_append, hopen]
    exact feedAll?_mark rfl hclose (c :: s)
  | cons member members =>
    have hmembers := @feedAll?_members limit depth member members [] h frames (by omega) hascending
      ⟨.object [] "" :: frames, .keyOrEnd⟩ (fun _ => rfl) level (c :: s)
    rw [prettyChars, List.append_assoc, List.append_assoc, List.cons_append, hopen]
    exact hmembers

/-! ## Whole texts -/

theorem readsValue {depth : Nat} {v : Json} (hv : v.Tidy depth) : ReadsValue limit depth v := by
  have hletters (word : List Char) (h : word.all isLetter = true) : ∀ c ∈ word, isLetter c = true :=
    List.all_eq_true.1 h
  induction hv with
  | null => exact readsValue_word (fun _ => rfl) (by decide) (hletters _ (by decide)) rfl
  | bool b =>
    cases b
    · exact readsValue_word (fun _ => rfl) (by decide) (hletters _ (by decide)) rfl
    · exact readsValue_word (fun _ => rfl) (by decide) (hletters _ (by decide)) rfl
  | @number _ n h =>
    exact readsValue_word (fun _ => text_ofNat n) (decimal_ne_nil n)
      (fun c hc => isLetter_of_isDigit (isDigit_of_mem_decimal hc)) (wordValue?_decimal h)
  | text s => exact readsValue_text s
  | list _ ih => exact readsValue_list ih
  | object hascending _ ih => exact readsValue_object hascending ih

/-- A written value is read back. -/
theorem read?_pretty {depth : Nat} {v : Json} (hv : v.Tidy depth) (hdepth : depth ≤ limit) :
    read? limit (v.pretty ++ "\n") = some v := by
  have hread := readsValue hv 0 [] .value '\n' [] (.inr rfl) (Nat.zero_add depth ▸ hdepth) (.inl rfl)
  have hchars : (v.pretty ++ "\n").toList = prettyChars 0 v ++ ['\n'] := by
    rw [String.toList_append, pretty, String.toList_ofList]
    rfl
  have hall : (prettyChars 0 v ++ ['\n']).foldlM (feed? limit) (.nothing, ⟨[], .value⟩) =
      some (.nothing, ⟨[], .commaOrEnd v⟩) := hread
  rw [read?, hchars, readChars?, hall]
  rfl

end LoginGate.Json
