import LoginGate.Proofs.Json.Lexing
import LoginGate.Proofs.Json.Numerals

/-!
# Tokens taken in as trees

A text is read as a value if and only if it writes a tree that has this value:

    read? limit s = some v ↔ ∃ t, Writes t.lexemes s.toList ∧ t.value? limit = some v
                                                                          (read?_eq_some_iff)

Reading goes on behind the tokens of a tree with its value (`readsTree`), and stops short of a value
if the tokens do not start with those of a tree (`splitsBelow`).  Which trees have a value is said
by `Tree.isSome_value?_iff`.
-/

namespace LoginGate.Json

open LoginGate.Text

variable {limit : Nat}

/-- The value of a finished run over written tokens. -/
def runs? (limit : Nat) (state : State) (lexemes : List Lexeme) : Option Json :=
  (lexemes.mapM Lexeme.token?).bind (run? limit state)

theorem runs?_cons (state : State) (l : Lexeme) (lexemes : List Lexeme) :
    runs? limit state (l :: lexemes) = l.token?.bind fun token =>
      (step? limit state token).bind fun state => runs? limit state lexemes := by
  rw [runs?, List.mapM_cons]
  cases l.token? with
  | none => rfl
  | some token =>
    cases hrest : lexemes.mapM Lexeme.token? with
    | none =>
      cases step? limit state token <;> simp [runs?, hrest]
    | some rest =>
      cases hstep : step? limit state token <;> simp [hstep, runs?, run?, hrest]

theorem runs?_step {state next : State} {l : Lexeme} {token : Token} (hl : l.token? = some token)
    (hstep : step? limit state token = some next) (lexemes : List Lexeme) :
    runs? limit state (l :: lexemes) = runs? limit next lexemes := by
  rw [runs?_cons, hl, Option.bind_some, hstep, Option.bind_some]

theorem runs?_refused {state : State} {l : Lexeme}
    (h : ∀ token ∈ l.token?, step? limit state token = none) (lexemes : List Lexeme) :
    runs? limit state (l :: lexemes) = none := by
  rw [runs?_cons]
  cases hl : l.token? with
  | none => rfl
  | some token => rw [Option.bind_some, h token hl, Option.bind_none]

/-- A value that begins with a token. -/
def begins? (limit : Nat) (frames : List Frame) (l : Lexeme) (lexemes : List Lexeme) : Option Json :=
  l.token?.bind fun token =>
    (beginValue? limit frames token).bind fun state => runs? limit state lexemes

theorem runs?_begin {awaiting : Awaiting} (h : awaiting = .value ∨ awaiting = .itemOrEnd)
    {l : Lexeme} (hl : l ≠ .closeList) (frames : List Frame) (lexemes : List Lexeme) :
    runs? limit ⟨frames, awaiting⟩ (l :: lexemes) = begins? limit frames l lexemes := by
  rw [runs?_cons, begins?]
  cases htoken : l.token? with
  | none => rfl
  | some token =>
    have hne : token ≠ .closeList := by
      rintro rfl
      cases l with
      | closeList => exact hl rfl
      | quoted pieces =>
        obtain ⟨t, -, ht⟩ := Option.map_eq_some_iff.1 htoken
        cases ht
      | _ => cases htoken
    rw [Option.bind_some, Option.bind_some, step?_begin h hne]

/-! ## Trees -/

/-- Induction over the lists and objects of a tree. -/
theorem Tree.induction {motive : Tree → Prop} (null : motive .null) (bool : ∀ b, motive (.bool b))
    (number : ∀ x, motive (.number x)) (text : ∀ pieces, motive (.text pieces))
    (list : ∀ items, (∀ t ∈ items, motive t) → motive (.list items))
    (object : ∀ members, (∀ m ∈ members, motive m.2) → motive (.object members)) (t : Tree) :
    motive t :=
  @Tree.rec motive (fun items => ∀ t ∈ items, motive t) (fun members => ∀ m ∈ members, motive m.2)
    (fun m => motive m.2) null bool number text list object
    (fun _ h => absurd h List.not_mem_nil) (fun _ _ h hs => List.forall_mem_cons.2 ⟨h, hs⟩)
    (fun _ h => absurd h List.not_mem_nil) (fun _ _ h hs => List.forall_mem_cons.2 ⟨h, hs⟩)
    (fun _ _ h => h) t

theorem isSome_values?_iff {room : Nat} {items : List Tree} :
    (values? room items).isSome ↔ ∀ t ∈ items, (t.value? room).isSome := by
  induction items with
  | nil => simp [values?]
  | cons t items ih =>
    rw [List.forall_mem_cons, ← ih, values?]
    cases t.value? room <;> cases values? room items <;> simp

theorem isSome_memberValues?_iff {room : Nat} {members : List (List Piece × Tree)} :
    (memberValues? room members).isSome ↔
      ∀ m ∈ members, (Piece.text? m.1).isSome ∧ (m.2.value? room).isSome := by
  induction members with
  | nil => simp [memberValues?]
  | cons m members ih =>
    obtain ⟨key, t⟩ := m
    rw [List.forall_mem_cons, ← ih, memberValues?]
    cases Piece.text? key <;> cases t.value? room <;> cases memberValues? room members <;> simp

/-- **What a tree has to be to have a value.** -/
theorem Tree.isSome_value?_iff {t : Tree} (room : Nat) :
    (t.value? room).isSome ↔ t.HasValue room := by
  induction t using Tree.induction generalizing room with
  | null => exact iff_of_true rfl .null
  | bool b => exact iff_of_true rfl (.bool b)
  | number x =>
    rw [value?, Option.isSome_map]
    exact ⟨.number, fun h => by cases h; assumption⟩
  | text pieces =>
    rw [value?, Option.isSome_map]
    exact ⟨.text, fun h => by cases h; assumption⟩
  | list items ih =>
    cases room with
    | zero => exact iff_of_false Bool.false_ne_true nofun
    | succ room =>
      rw [value?, if_neg (Nat.succ_ne_zero room), Option.isSome_map, Nat.add_sub_cancel,
        isSome_values?_iff]
      refine ⟨fun h => .list fun t ht => (ih t ht room).1 (h t ht), fun h t ht => ?_⟩
      cases h with
      | list h => exact (ih t ht room).2 (h t ht)
  | object members ih =>
    cases room with
    | zero => exact iff_of_false Bool.false_ne_true nofun
    | succ room =>
      rw [value?, if_neg (Nat.succ_ne_zero room), Option.isSome_map, Nat.add_sub_cancel,
        isSome_memberValues?_iff]
      refine ⟨fun h => .object (fun m hm => (h m hm).1) fun m hm => (ih m hm room).1 (h m hm).2,
        fun h m hm => ?_⟩
      cases h with
      | object hkeys h => exact ⟨hkeys m hm, (ih m hm room).2 (h m hm)⟩

/-- Reading goes on behind the tokens of a tree with its value, if it has one. -/
def ReadsTree (limit : Nat) (t : Tree) : Prop :=
  ∀ (frames : List Frame) (awaiting : Awaiting) (rest : List Lexeme),
    awaiting = .value ∨ awaiting = .itemOrEnd →
      runs? limit ⟨frames, awaiting⟩ (t.lexemes ++ rest) =
        (t.value? (limit - frames.length)).bind fun v => runs? limit ⟨frames, .commaOrEnd v⟩ rest

theorem readsTree_word {t : Tree} {word : List Char}
    {hword : word ≠ [] ∧ ∀ c ∈ word, isLetter c = true} (hlexemes : t.lexemes = [.word word hword])
    (hvalue : ∀ room, t.value? room = wordValue? word) : ReadsTree limit t := by
  intro frames awaiting rest hawaiting
  rw [hlexemes, hvalue, List.singleton_append, runs?_begin hawaiting (by simp)]
  show ((wordValue? word).map _).bind _ = _
  rw [Option.bind_map]
  rfl

theorem readsTree_text (pieces : List Piece) : ReadsTree limit (.text pieces) := by
  intro frames awaiting rest hawaiting
  rw [Tree.lexemes, List.singleton_append, runs?_begin hawaiting (by simp), begins?, Lexeme.token?,
    Tree.value?, Option.bind_map, Option.bind_map]
  rfl

/-! ## Lists -/

theorem begins?_openList (frames : List Frame) (lexemes : List Lexeme) :
    begins? limit frames .openList lexemes = if limit - frames.length = 0 then none
      else runs? limit ⟨.list [] :: frames, .itemOrEnd⟩ lexemes := by
  rw [begins?, Lexeme.token?, Option.bind_some, beginValue?]
  by_cases hroom : frames.length < limit
  · rw [if_pos hroom, if_neg (by omega), Option.bind_some]
  · rw [if_neg hroom, if_pos (by omega), Option.bind_none]

theorem runs?_moreItems {items : List Tree} (h : ∀ t ∈ items, ReadsTree limit t)
    (frames : List Frame) (done : List Json) (last : Json) (rest : List Lexeme) :
    runs? limit ⟨.list done :: frames, .commaOrEnd last⟩ (moreItems items ++ rest) =
      (values? (limit - (frames.length + 1)) items).bind fun vs =>
        runs? limit ⟨frames, .commaOrEnd (.list (done.reverse ++ last :: vs))⟩ rest := by
  induction items generalizing done last with
  | nil =>
    have hend : step? limit ⟨.list done :: frames, .commaOrEnd last⟩ .closeList =
        some ⟨frames, .commaOrEnd (.list (done.reverse ++ [last]))⟩ := by
      rw [← List.reverse_cons]
      rfl
    rw [moreItems, List.singleton_append, runs?_step rfl hend, values?, Option.bind_some]
  | cons t items ih =>
    have hcomma : step? limit ⟨.list done :: frames, .commaOrEnd last⟩ .comma =
        some ⟨.list (last :: done) :: frames, .value⟩ := rfl
    have hread := h t List.mem_cons_self (.list (last :: done) :: frames) .value
      (moreItems items ++ rest) (.inl rfl)
    rw [moreItems, List.cons_append, List.append_assoc, runs?_step rfl hcomma, hread, values?,
      List.length_cons]
    cases t.value? (limit - (frames.length + 1)) with
    | none => rfl
    | some v =>
      have hothers := ih (fun t ht => h t (List.mem_cons_of_mem _ ht)) (last :: done) v
      rw [Option.bind_some, hothers, List.reverse_cons]
      cases values? (limit - (frames.length + 1)) items with
      | none => rfl
      | some vs =>
        rw [Option.bind_some, List.append_assoc]
        rfl

theorem readsTree_list {items : List Tree} (h : ∀ t ∈ items, ReadsTree limit t) :
    ReadsTree limit (.list items) := by
  intro frames awaiting rest hawaiting
  cases items with
  | nil =>
    have hclose : step? limit ⟨.list [] :: frames, .itemOrEnd⟩ .closeList =
        some ⟨frames, .commaOrEnd (.list [])⟩ := rfl
    rw [Tree.lexemes, List.cons_append, runs?_begin hawaiting (by simp), begins?_openList,
      Tree.value?]
    split
    · rfl
    · exact runs?_step rfl hclose rest
  | cons t items =>
    have hread := h t List.mem_cons_self (.list [] :: frames) .itemOrEnd (moreItems items ++ rest)
      (.inr rfl)
    rw [Tree.lexemes, List.cons_append, List.append_assoc, runs?_begin hawaiting (by simp),
      begins?_openList, Tree.value?]
    split
    · rfl
    · rw [hread, values?, List.length_cons, Nat.sub_add_eq]
      cases t.value? (limit - frames.length - 1) with
      | none => rfl
      | some v =>
        have hitems := runs?_moreItems (fun t ht => h t (List.mem_cons_of_mem _ ht)) frames [] v rest
        rw [Option.bind_some, hitems, Nat.sub_add_eq]
        cases values? (limit - frames.length - 1) items <;> rfl

/-! ## Objects -/

theorem begins?_openObject (frames : List Frame) (lexemes : List Lexeme) :
    begins? limit frames .openObject lexemes = if limit - frames.length = 0 then none
      else runs? limit ⟨.object [] "" :: frames, .keyOrEnd⟩ lexemes := by
  rw [begins?, Lexeme.token?, Option.bind_some, beginValue?]
  by_cases hroom : frames.length < limit
  · rw [if_pos hroom, if_neg (by omega), Option.bind_some]
  · rw [if_neg hroom, if_pos (by omega), Option.bind_none]

theorem runs?_key {state : State} {frames : List Frame} {done : KeyMap Json}
    (hkey : ∀ key, step? limit state (.text key) = some ⟨frames, .colon done key⟩)
    (pieces : List Piece) (lexemes : List Lexeme) :
    runs? limit state (.quoted pieces :: .colon :: lexemes) = (Piece.text? pieces).bind fun key =>
      runs? limit ⟨.object done (String.ofList key) :: frames, .value⟩ lexemes := by
  have hcolon (key : String) : step? limit ⟨frames, .colon done key⟩ .colon =
      some ⟨.object done key :: frames, .value⟩ := rfl
  rw [runs?_cons, Lexeme.token?, Option.bind_map]
  refine congrArg (Piece.text? pieces).bind (funext fun key => ?_)
  show (step? limit state (.text (String.ofList key))).bind _ = _
  rw [hkey, Option.bind_some, runs?_step rfl (hcolon _)]

theorem runs?_moreMembers {members : List (List Piece × Tree)}
    (h : ∀ m ∈ members, ReadsTree limit m.2) (frames : List Frame) (done : KeyMap Json)
    (key : String) (last : Json) (rest : List Lexeme) :
    runs? limit ⟨.object done key :: frames, .commaOrEnd last⟩ (moreMembers members ++ rest) =
      (memberValues? (limit - (frames.length + 1)) members).bind fun pairs =>
        runs? limit ⟨frames, .commaOrEnd (.object
          (pairs.foldl (fun map pair => KeyMap.insert pair.1 pair.2 map)
            (KeyMap.insert key last done)))⟩ rest := by
  induction members generalizing done key last with
  | nil =>
    have hend : step? limit ⟨.object done key :: frames, .commaOrEnd last⟩ .closeObject =
        some ⟨frames, .commaOrEnd (.object (KeyMap.insert key last done))⟩ := rfl
    rw [moreMembers, List.singleton_append, runs?_step rfl hend, memberValues?, Option.bind_some]
    rfl
  | cons member members ih =>
    obtain ⟨pieces, t⟩ := member
    have hcomma : step? limit ⟨.object done key :: frames, .commaOrEnd last⟩ .comma =
        some ⟨frames, .key (KeyMap.insert key last done)⟩ := rfl
    rw [moreMembers, List.cons_append, List.cons_append, List.cons_append, List.append_assoc,
      runs?_step rfl hcomma, runs?_key fun _ => rfl, memberValues?]
    cases Piece.text? pieces with
    | none => rfl
    | some k =>
      have hread := h (pieces, t) List.mem_cons_self
        (.object (KeyMap.insert key last done) (String.ofList k) :: frames) .value
        (moreMembers members ++ rest) (.inl rfl)
      rw [Option.bind_some, hread, List.length_cons]
      cases t.value? (limit - (frames.length + 1)) with
      | none => rfl
      | some v =>
        have hothers := ih (fun m hm => h m (List.mem_cons_of_mem _ hm))
          (KeyMap.insert key last done) (String.ofList k) v
        rw [Option.bind_some, hothers]
        cases memberValues? (limit - (frames.length + 1)) members <;> rfl

theorem readsTree_object {members : List (List Piece × Tree)}
    (h : ∀ m ∈ members, ReadsTree limit m.2) : ReadsTree limit (.object members) := by
  intro frames awaiting rest hawaiting
  cases members with
  | nil =>
    have hclose : step? limit ⟨.object [] "" :: frames, .keyOrEnd⟩ .closeObject =
        some ⟨frames, .commaOrEnd (.object [])⟩ := rfl
    rw [Tree.lexemes, List.cons_append, runs?_begin hawaiting (by simp), begins?_openObject,
      Tree.value?]
    split
    · rfl
    · exact runs?_step rfl hclose rest
  | cons member members =>
    obtain ⟨pieces, t⟩ := member
    rw [Tree.lexemes, List.cons_append, List.cons_append, List.cons_append, List.append_assoc,
      runs?_begin hawaiting (by simp), begins?_openObject, Tree.value?]
    split
    · rfl
    · rw [runs?_key (fun _ => rfl), memberValues?]
      cases Piece.text? pieces with
      | none => rfl
      | some k =>
        have hread := h (pieces, t) List.mem_cons_self (.object [] (String.ofList k) :: frames) .value
          (moreMembers members ++ rest) (.inl rfl)
        rw [Option.bind_some, hread, List.length_cons, Nat.sub_add_eq]
        cases t.value? (limit - frames.length - 1) with
        | none => rfl
        | some v =>
          have hmembers := runs?_moreMembers (fun m hm => h m (List.mem_cons_of_mem _ hm)) frames []
            (String.ofList k) v rest
          rw [Option.bind_some, hmembers, Nat.sub_add_eq]
          cases memberValues? (limit - frames.length - 1) members <;> rfl

/-! ## Whole texts -/

theorem readsTree (t : Tree) : ReadsTree limit t := by
  induction t using Tree.induction with
  | null => exact readsTree_word rfl fun _ => rfl
  | bool b =>
    refine readsTree_word rfl fun _ => ?_
    cases b <;> rfl
  | number x => exact readsTree_word rfl fun _ => (wordValue?_written x).symm
  | text pieces => exact readsTree_text pieces
  | list items ih => exact readsTree_list ih
  | object members ih => exact readsTree_object ih

/-- Fewer than `n` tokens behind the first start with those of a tree, if they are read. -/
def SplitsBelow (limit n : Nat) : Prop :=
  ∀ (frames : List Frame) (l : Lexeme) (lexemes : List Lexeme) (w : Json), lexemes.length < n →
    begins? limit frames l lexemes = some w → ∃ (t : Tree) (rest : List Lexeme),
      l :: lexemes = t.lexemes ++ rest

theorem length_lexemes_pos (t : Tree) : 0 < t.lexemes.length := by
  unfold Tree.lexemes
  split <;> exact Nat.succ_pos _

theorem runs?_closeList (frames : List Frame) (lexemes : List Lexeme) :
    runs? limit ⟨frames, .value⟩ (.closeList :: lexemes) = none :=
  runs?_refused (fun token h => by cases h; rfl) lexemes

/-- A run ends behind a value only. -/
theorem runs?_nil {state : State} (h : ∀ v, state.awaiting ≠ .commaOrEnd v) :
    runs? limit state [] = none := by
  show state.value? = none
  unfold State.value?
  split
  · exact absurd rfl (h _)
  · rfl

theorem runs?_quoted_refused {state : State}
    (h : ∀ key, step? limit state (.text key) = none) (pieces : List Piece)
    (lexemes : List Lexeme) : runs? limit state (.quoted pieces :: lexemes) = none := by
  refine runs?_refused (fun token htoken => ?_) lexemes
  obtain ⟨key, -, rfl⟩ := Option.map_eq_some_iff.1 htoken
  exact h _

variable {n : Nat} {frames : List Frame} {lexemes : List Lexeme} {w : Json}

theorem SplitsBelow.exists_value (h : SplitsBelow limit n) {awaiting : Awaiting}
    (hawaiting : awaiting = .value ∨ awaiting = .itemOrEnd) {l : Lexeme} (hl : l ≠ .closeList)
    (hn : lexemes.length < n) (hread : runs? limit ⟨frames, awaiting⟩ (l :: lexemes) = some w) :
    ∃ (t : Tree) (v : Json) (rest : List Lexeme), l :: lexemes = t.lexemes ++ rest ∧
      rest.length ≤ lexemes.length ∧ runs? limit ⟨frames, .commaOrEnd v⟩ rest = some w := by
  rw [runs?_begin hawaiting hl] at hread
  obtain ⟨t, rest, ht⟩ := h frames l lexemes w hn hread
  rw [← runs?_begin hawaiting hl, ht, readsTree t frames awaiting rest hawaiting] at hread
  obtain ⟨v, -, hv⟩ := Option.bind_eq_some_iff.1 hread
  refine ⟨t, v, rest, ht, ?_, hv⟩
  have hlength := congrArg List.length ht
  have := length_lexemes_pos t
  rw [List.length_append, List.length_cons] at hlength
  omega

theorem SplitsBelow.exists_moreItems (h : SplitsBelow limit n) {done : List Json} {last : Json}
    (hn : lexemes.length ≤ n)
    (hread : runs? limit ⟨.list done :: frames, .commaOrEnd last⟩ lexemes = some w) :
    ∃ (items : List Tree) (rest : List Lexeme), lexemes = moreItems items ++ rest := by
  induction hlength : lexemes.length using Nat.strongRecOn generalizing lexemes done last with
  | ind length ih =>
    cases lexemes with
    | nil => cases hread
    | cons l lexemes =>
      rw [List.length_cons] at hn hlength
      cases l with
      | closeList => exact ⟨[], lexemes, rfl⟩
      | comma =>
        have hcomma : step? limit ⟨.list done :: frames, .commaOrEnd last⟩ .comma =
            some ⟨.list (last :: done) :: frames, .value⟩ := rfl
        rw [runs?_step rfl hcomma] at hread
        cases lexemes with
        | nil => cases hread
        | cons l lexemes =>
          rw [List.length_cons] at hn hlength
          have hl : l ≠ .closeList := by
            rintro rfl
            rw [runs?_closeList] at hread
            cases hread
          obtain ⟨t, v, rest, ht, hle, hv⟩ := h.exists_value (.inl rfl) hl (by omega) hread
          obtain ⟨items, more, rfl⟩ := ih rest.length (by omega) (by omega) hv rfl
          refine ⟨t :: items, more, ?_⟩
          rw [ht, moreItems, List.cons_append, List.append_assoc]
      | quoted pieces =>
        rw [runs?_quoted_refused fun _ => rfl] at hread
        cases hread
      | _ =>
        rw [runs?_refused fun token h => by cases h; rfl] at hread
        cases hread

theorem SplitsBelow.exists_member (h : SplitsBelow limit n) {state : State} {done : KeyMap Json}
    (hkey : ∀ key, step? limit state (.text key) = some ⟨frames, .colon done key⟩)
    {pieces : List Piece} (hn : lexemes.length ≤ n)
    (hread : runs? limit state (.quoted pieces :: lexemes) = some w) :
    ∃ (t : Tree) (key : String) (v : Json) (rest : List Lexeme),
      lexemes = .colon :: (t.lexemes ++ rest) ∧ rest.length ≤ lexemes.length ∧
        runs? limit ⟨.object done key :: frames, .commaOrEnd v⟩ rest = some w := by
  cases lexemes with
  | nil =>
    rw [runs?_cons] at hread
    obtain ⟨token, htoken, hread⟩ := Option.bind_eq_some_iff.1 hread
    obtain ⟨key, -, rfl⟩ := Option.map_eq_some_iff.1 htoken
    rw [hkey, Option.bind_some, runs?_nil fun _ => Awaiting.noConfusion] at hread
    cases hread
  | cons l lexemes =>
    have hcolon : l = .colon := by
      rw [runs?_cons] at hread
      obtain ⟨token, htoken, hread⟩ := Option.bind_eq_some_iff.1 hread
      obtain ⟨key, -, rfl⟩ := Option.map_eq_some_iff.1 htoken
      rw [hkey, Option.bind_some] at hread
      cases l with
      | colon => rfl
      | quoted pieces =>
        rw [runs?_quoted_refused fun _ => rfl] at hread
        cases hread
      | _ =>
        rw [runs?_refused fun token h => by cases h; rfl] at hread
        cases hread
    obtain rfl := hcolon
    rw [runs?_key hkey] at hread
    obtain ⟨key, -, hread⟩ := Option.bind_eq_some_iff.1 hread
    cases lexemes with
    | nil => cases hread
    | cons l lexemes =>
      rw [List.length_cons, List.length_cons] at hn
      have hl : l ≠ .closeList := by
        rintro rfl
        rw [runs?_closeList] at hread
        cases hread
      obtain ⟨t, v, rest, ht, hle, hv⟩ := h.exists_value (.inl rfl) hl (by omega) hread
      refine ⟨t, String.ofList key, v, rest, congrArg _ ht, ?_, hv⟩
      rw [List.length_cons, List.length_cons]
      omega

theorem SplitsBelow.exists_moreMembers (h : SplitsBelow limit n) {done : KeyMap Json} {key : String}
    {last : Json} (hn : lexemes.length ≤ n)
    (hread : runs? limit ⟨.object done key :: frames, .commaOrEnd last⟩ lexemes = some w) :
    ∃ (members : List (List Piece × Tree)) (rest : List Lexeme),
      lexemes = moreMembers members ++ rest := by
  induction hlength : lexemes.length using Nat.strongRecOn generalizing lexemes done key last with
  | ind length ih =>
    cases lexemes with
    | nil => cases hread
    | cons l lexemes =>
      rw [List.length_cons] at hn hlength
      cases l with
      | closeObject => exact ⟨[], lexemes, rfl⟩
      | comma =>
        have hcomma : step? limit ⟨.object done key :: frames, .commaOrEnd last⟩ .comma =
            some ⟨frames, .key (KeyMap.insert key last done)⟩ := rfl
        rw [runs?_step rfl hcomma] at hread
        cases lexemes with
        | nil =>
          rw [runs?_nil fun _ => Awaiting.noConfusion] at hread
          cases hread
        | cons l lexemes =>
          rw [List.length_cons] at hn hlength
          cases l with
          | quoted pieces =>
            obtain ⟨t, k, v, rest, rfl, hle, hv⟩ := h.exists_member (fun _ => rfl) (by omega) hread
            obtain ⟨members, more, rfl⟩ := ih rest.length (by omega) (by omega) hv rfl
            refine ⟨(pieces, t) :: members, more, ?_⟩
            simp [moreMembers]
          | _ =>
            rw [runs?_refused fun token h => by cases h; rfl] at hread
            cases hread
      | quoted pieces =>
        rw [runs?_quoted_refused fun _ => rfl] at hread
        cases hread
      | _ =>
        rw [runs?_refused fun token h => by cases h; rfl] at hread
        cases hread

/-- **Tokens that are read start with those of a tree.** -/
theorem splitsBelow (n : Nat) : SplitsBelow limit n := by
  induction n with
  | zero => exact fun _ _ _ _ h => absurd h (Nat.not_lt_zero _)
  | succ n ih =>
    intro frames l lexemes w hn hread
    cases l with
    | word letters hletters =>
      rw [begins?, Lexeme.token?, Option.bind_some, beginValue?] at hread
      obtain ⟨state, hstate, -⟩ := Option.bind_eq_some_iff.1 hread
      obtain ⟨v, hv, -⟩ := Option.map_eq_some_iff.1 hstate
      obtain ⟨t, ht⟩ := exists_leaf hletters (Option.isSome_iff_exists.2 ⟨v, hv⟩)
      exact ⟨t, lexemes, by rw [ht]; rfl⟩
    | quoted pieces => exact ⟨.text pieces, lexemes, rfl⟩
    | openList =>
      rw [begins?_openList] at hread
      split at hread
      · cases hread
      cases lexemes with
      | nil => cases hread
      | cons l lexemes =>
        rw [List.length_cons] at hn
        by_cases hl : l = .closeList
        · obtain rfl := hl
          exact ⟨.list [], lexemes, rfl⟩
        · obtain ⟨t, v, rest, ht, hle, hv⟩ := ih.exists_value (.inr rfl) hl (by omega) hread
          obtain ⟨items, more, rfl⟩ := ih.exists_moreItems (by omega) hv
          refine ⟨.list (t :: items), more, ?_⟩
          rw [ht, Tree.lexemes, List.cons_append, List.append_assoc]
    | openObject =>
      rw [begins?_openObject] at hread
      split at hread
      · cases hread
      cases lexemes with
      | nil => cases hread
      | cons l lexemes =>
        rw [List.length_cons] at hn
        cases l with
        | closeObject => exact ⟨.object [], lexemes, rfl⟩
        | quoted pieces =>
          obtain ⟨t, k, v, rest, rfl, hle, hv⟩ := ih.exists_member (fun _ => rfl) (by omega) hread
          obtain ⟨members, more, rfl⟩ := ih.exists_moreMembers (by omega) hv
          refine ⟨.object ((pieces, t) :: members), more, ?_⟩
          simp [Tree.lexemes]
        | _ =>
          rw [runs?_refused fun token h => by cases h; rfl] at hread
          cases hread
    | _ => cases hread

/-- **What is read is a text that writes a tree, and what is read from it is the value of the
tree.** -/
theorem read?_eq_some_iff {s : String} {v : Json} :
    read? limit s = some v ↔
      ∃ t : Tree, Writes t.lexemes s.toList ∧ t.value? limit = some v := by
  have hchars : read? limit s = (cut? .nothing s.toList).bind (run? limit ⟨[], .value⟩) :=
    readChars?_eq limit s.toList
  rw [hchars]
  constructor
  · intro h
    obtain ⟨tokens, htokens, -⟩ := Option.bind_eq_some_iff.1 h
    obtain ⟨lexemes, hwrites⟩ := exists_writes (Option.isSome_iff_exists.2 ⟨tokens, htokens⟩)
    rw [cut?_of_writes hwrites] at h
    have hread : runs? limit ⟨[], .value⟩ lexemes = some v := h
    cases lexemes with
    | nil => cases hread
    | cons l lexemes =>
      have hl : l ≠ .closeList := by
        rintro rfl
        rw [runs?_closeList] at hread
        cases hread
      have hbegins := hread
      rw [runs?_begin (.inl rfl) hl] at hbegins
      obtain ⟨t, rest, ht⟩ := splitsBelow _ [] l lexemes v (Nat.lt_succ_self _) hbegins
      rw [ht, readsTree t [] .value rest (.inl rfl)] at hread
      obtain ⟨w, hw, hrest⟩ := Option.bind_eq_some_iff.1 hread
      -- nothing follows the value
      cases rest with
      | nil =>
        rw [ht, List.append_nil] at hwrites
        obtain rfl := Option.some.inj hrest
        exact ⟨t, hwrites, hw⟩
      | cons l rest =>
        rw [runs?_refused fun token _ => rfl] at hrest
        cases hrest
  · rintro ⟨t, hwrites, hvalue⟩
    have hread := @readsTree limit t [] .value [] (.inl rfl)
    rw [cut?_of_writes hwrites]
    rw [List.append_nil, List.length_nil, Nat.sub_zero, hvalue] at hread
    exact hread

end LoginGate.Json
