import LoginGate.Proofs.Yaml.Trees
import LoginGate.Proofs.Yaml.WrittenTokens

/-!
# The events and the value of a written document

The tokens of a value tell its events, `valueEvents writtenStyle`, whether the value is indented
below its key or not (`Parse.parsesValue`), and the tokens of a document those of one document
(`events_document`).  Its events build the tree `treeOf v`, which has neither anchors nor tags, and
that tree holds `v`, so

    value? (write v) = some v                    (value?_write)

for every object `v` that is tidy, not empty and nested no deeper than is read.
-/

namespace LoginGate.Yaml

open LoginGate.Text

/-- The style in which a text is written. -/
def writtenStyle (s : List Char) : ScalarStyle := (styleOf s).scalar

namespace Parse

/-- Working off goals takes `p` to `q` in at most `bound` steps. -/
def Parses (bound : Nat) (p q : Parse) : Prop :=
  ∃ n, n ≤ bound ∧ ∀ fuel, run (fuel + n) p = run fuel q

theorem Parses.refl (p : Parse) : Parses 0 p p := ⟨0, Nat.le_refl 0, fun _ => rfl⟩

theorem parses_step {p q : Parse} (h : p.step? = some q) : Parses 1 p q :=
  ⟨1, Nat.le_refl 1, fun fuel => by rw [run, h]⟩

theorem Parses.trans {a b : Nat} {p q r : Parse} (hpq : Parses a p q) (hqr : Parses b q r) :
    Parses (a + b) p r := by
  obtain ⟨n, hn, hpq⟩ := hpq
  obtain ⟨m, hm, hqr⟩ := hqr
  refine ⟨m + n, by omega, fun fuel => ?_⟩
  rw [← Nat.add_assoc, hpq, hqr]

theorem Parses.mono {a b : Nat} {p q : Parse} (h : Parses a p q) (hab : a ≤ b) : Parses b p q := by
  obtain ⟨n, hn, h⟩ := h
  exact ⟨n, Nat.le_trans hn hab, h⟩

/-- The tokens behind a list that is not indented end it. -/
def EndsList (tokens : List Token) : Prop := ∃ t rest, tokens = t :: rest ∧ t ≠ .blockEntry

/-- The tokens of a value tell its events. -/
def ParsesValue (v : Json) : Prop :=
  ∀ (bare bare' : Bool) (rest : List Token) (goals : List Goal) (handles : Handles)
    (events : List Event), (bare = true → bare' = true ∧ EndsList rest) →
      Parses (3 * (valueTokens bare v).length)
        ⟨valueTokens bare v ++ rest, .node true bare' :: goals, handles, events⟩
        ⟨rest, goals, handles, (valueEvents writtenStyle v).reverse ++ events⟩

variable {goals : List Goal} {handles : Handles} {rest : List Token} {events : List Event}

theorem parses_scalar (text : List Char) (style : ScalarStyle) (block bare : Bool) :
    Parses 1 ⟨.scalar text style :: rest, .node block bare :: goals, handles, events⟩
      ⟨rest, goals, handles, .scalar {} text style :: events⟩ := parses_step rfl

theorem valueTokens_eq_cons {depth : Nat} {v : Json} (hv : v.Tidy depth) (bare : Bool) :
    ∃ t tokens, valueTokens bare v = t :: tokens ∧ endsBlockPart t = false ∧
      (bare = false → t ≠ .blockEntry) := by
  cases hv with
  | null => exact ⟨_, _, rfl, rfl, by simp [plainToken]⟩
  | bool b => cases b <;> exact ⟨_, _, rfl, rfl, by simp [plainToken]⟩
  | number => exact ⟨_, _, rfl, rfl, by simp [plainToken]⟩
  | text s => exact ⟨_, _, rfl, rfl, by simp [textToken]⟩
  | @list _ items =>
    cases items with
    | nil => exact ⟨_, _, rfl, rfl, by simp⟩
    | cons v items =>
      cases bare with
      | true => exact ⟨_, _, rfl, rfl, by simp⟩
      | false => exact ⟨_, _, rfl, rfl, by simp⟩
  | @object _ members =>
    cases members with
    | nil => exact ⟨_, _, rfl, rfl, by simp⟩
    | cons m members => exact ⟨_, _, rfl, rfl, by simp⟩

/-- A node follows, not the end of what holds it. -/
theorem nodeUnless?_value {depth : Nat} {v : Json} (hv : v.Tidy depth) {bare : Bool}
    {ends : Token → Bool} (hends : ∀ t, endsBlockPart t = false →
      (bare = false → t ≠ .blockEntry) → ends t = false) (block bare' : Bool) :
    nodeUnless? ⟨valueTokens bare v ++ rest, goals, handles, events⟩ ends block bare' goals =
      some ⟨valueTokens bare v ++ rest, .node block bare' :: goals, handles, events⟩ := by
  obtain ⟨t, tokens, ht, hpart, hentry⟩ := valueTokens_eq_cons hv bare
  rw [ht, nodeUnless?, List.cons_append]
  dsimp only
  rw [hends t hpart hentry, if_neg Bool.false_ne_true]

/-! ## Lists -/

/-- The goals that are due at an item of a list in block style. -/
def IsItem (g : Goal) : Prop := g = .blockItem ∨ g = .bareItem

theorem parses_item {depth : Nat} {v : Json} (hv : v.Tidy depth) (hparses : ParsesValue v)
    {g : Goal} (hg : IsItem g) :
    Parses (1 + 3 * (valueTokens false v).length)
      ⟨.blockEntry :: valueTokens false v ++ rest, g :: goals, handles, events⟩
      ⟨rest, g :: goals, handles, (valueEvents writtenStyle v).reverse ++ events⟩ := by
  refine Parses.trans (parses_step ?_)
    (hparses false false rest (g :: goals) handles events fun h => Bool.noConfusion h)
  obtain rfl | rfl := hg
  · refine nodeUnless?_value hv (fun t hpart hentry => ?_) true false
    have hend : (t == .blockEnd) = false := by
      simp only [endsBlockPart, Bool.or_eq_false_iff] at hpart
      exact hpart.2
    rw [endsBlockItem, hend, beq_false_of_ne (hentry rfl), Bool.or_self]
  · refine nodeUnless?_value hv (fun t hpart hentry => ?_) true false
    rw [beq_false_of_ne (hentry rfl), hpart, Bool.or_self]

theorem parses_items {depth : Nat} {v : Json} {items : List Json}
    (htidy : ∀ w ∈ v :: items, w.Tidy depth) (hparses : ∀ w ∈ v :: items, ParsesValue w) {g : Goal}
    (hg : IsItem g) :
    Parses (3 * (itemTokens (v :: items)).length - 2)
      ⟨itemTokens (v :: items) ++ rest, g :: goals, handles, events⟩
      ⟨rest, g :: goals, handles, (itemEvents writtenStyle (v :: items)).reverse ++ events⟩ := by
  have hv := htidy v List.mem_cons_self
  have hv' := hparses v List.mem_cons_self
  induction items generalizing v events with
  | nil =>
    have htokens : itemTokens [v] = .blockEntry :: valueTokens false v := by simp [itemTokens]
    have hevents : itemEvents writtenStyle [v] = valueEvents writtenStyle v := by simp [itemEvents]
    rw [htokens, hevents]
    refine (parses_item hv hv' hg).mono ?_
    simp only [List.length_cons]
    omega
  | cons w items ih =>
    have hitem := @parses_item goals handles (itemTokens (w :: items) ++ rest) events depth v hv hv'
      g hg
    have hitems := @ih ((valueEvents writtenStyle v).reverse ++ events) w
      (fun x hx => htidy x (List.mem_cons_of_mem v hx))
      (fun x hx => hparses x (List.mem_cons_of_mem v hx)) (htidy w (by simp)) (hparses w (by simp))
    rw [itemTokens, itemEvents, List.append_assoc, List.reverse_append, List.append_assoc]
    refine (hitem.trans hitems).mono ?_
    rw [List.length_append, List.length_cons, itemTokens, List.length_append, List.length_cons]
    omega

/-- A list that is indented below its key. -/
theorem parses_indentedList {depth : Nat} {v : Json} {items : List Json}
    (htidy : ∀ w ∈ v :: items, w.Tidy depth) (hparses : ∀ w ∈ v :: items, ParsesValue w)
    (bare : Bool) :
    Parses (3 * (valueTokens false (.list (v :: items))).length)
      ⟨valueTokens false (.list (v :: items)) ++ rest, .node true bare :: goals, handles, events⟩
      ⟨rest, goals, handles, (valueEvents writtenStyle (.list (v :: items))).reverse ++ events⟩ := by
  have hstart (tokens : List Token) : Parses 1
      ⟨.blockListStart :: tokens, .node true bare :: goals, handles, events⟩
      ⟨tokens, .blockItem :: goals, handles, .listStart {} :: events⟩ := parses_step rfl
  have hitems : Parses _ ⟨_, .blockItem :: goals, handles, .listStart {} :: events⟩
      ⟨.blockEnd :: rest, _, _, _⟩ := parses_items htidy hparses (.inl rfl)
  have hend (events : List Event) : Parses 1
      ⟨.blockEnd :: rest, .blockItem :: goals, handles, events⟩
      ⟨rest, goals, handles, .listEnd :: events⟩ := parses_step rfl
  have htokens : valueTokens false (.list (v :: items)) =
      .blockListStart :: itemTokens (v :: items) ++ [.blockEnd] := by simp [valueTokens]
  have hevents : (valueEvents writtenStyle (.list (v :: items))).reverse ++ events =
      .listEnd :: ((itemEvents writtenStyle (v :: items)).reverse ++ .listStart {} :: events) := by
    simp [valueEvents]
  rw [htokens, hevents, List.append_assoc, List.cons_append, List.singleton_append]
  refine (((hstart _).trans hitems).trans (hend _)).mono ?_
  simp only [List.length_append, List.length_cons, List.length_nil]
  omega

/-- A list that is not, which the token behind it ends. -/
theorem parses_bareList {depth : Nat} {v : Json} {items : List Json}
    (htidy : ∀ w ∈ v :: items, w.Tidy depth) (hparses : ∀ w ∈ v :: items, ParsesValue w)
    (hrest : EndsList rest) :
    Parses (3 * (valueTokens true (.list (v :: items))).length)
      ⟨valueTokens true (.list (v :: items)) ++ rest, .node true true :: goals, handles, events⟩
      ⟨rest, goals, handles, (valueEvents writtenStyle (.list (v :: items))).reverse ++ events⟩ := by
  obtain ⟨t, tokens, rfl, ht⟩ := hrest
  have hstart (tokens : List Token) : Parses 1
      ⟨.blockEntry :: tokens, .node true true :: goals, handles, events⟩
      ⟨.blockEntry :: tokens, .bareItem :: goals, handles, .listStart {} :: events⟩ :=
    parses_step rfl
  have hitems : Parses _ ⟨_, .bareItem :: goals, handles, .listStart {} :: events⟩
      ⟨t :: tokens, _, _, _⟩ := parses_items htidy hparses (.inr rfl)
  have hend (events : List Event) : Parses 1 ⟨t :: tokens, .bareItem :: goals, handles, events⟩
      ⟨t :: tokens, goals, handles, .listEnd :: events⟩ := by
    refine parses_step ?_
    cases t <;> first | rfl | exact absurd rfl ht
  have htokens : valueTokens true (.list (v :: items)) = itemTokens (v :: items) := by
    simp [valueTokens]
  have hfirst : itemTokens (v :: items) = .blockEntry :: (valueTokens false v ++ itemTokens items) := by
    simp [itemTokens]
  have hevents : (valueEvents writtenStyle (.list (v :: items))).reverse ++ events =
      .listEnd :: ((itemEvents writtenStyle (v :: items)).reverse ++ .listStart {} :: events) := by
    simp [valueEvents]
  rw [hfirst] at hitems
  rw [htokens, hfirst, hevents]
  refine (((hstart _).trans hitems).trans (hend _)).mono ?_
  simp only [List.length_cons]
  omega

theorem parsesValue_list {depth : Nat} {items : List Json} (htidy : ∀ v ∈ items, v.Tidy depth)
    (hparses : ∀ v ∈ items, ParsesValue v) : ParsesValue (.list items) := by
  intro bare bare' rest goals handles events hbare
  cases items with
  | nil =>
    have hstart : Parses 1
        ⟨.flowListStart :: .flowListEnd :: rest, .node true bare' :: goals, handles, events⟩
        ⟨.flowListEnd :: rest, .flowItem true :: goals, handles, .listStart {} :: events⟩ :=
      parses_step rfl
    have hend : Parses 1
        ⟨.flowListEnd :: rest, .flowItem true :: goals, handles, .listStart {} :: events⟩
        ⟨rest, goals, handles, .listEnd :: .listStart {} :: events⟩ := parses_step rfl
    exact (hstart.trans hend).mono (Nat.le_of_ble_eq_true rfl)
  | cons v items =>
    cases bare with
    | false => exact parses_indentedList htidy hparses bare'
    | true =>
      obtain ⟨rfl, hrest⟩ := hbare rfl
      exact parses_bareList htidy hparses hrest

/-! ## Maps -/

/-- Behind a member comes another one or the end of the block. -/
theorem endsList_memberTokens (members : List (String × Json)) :
    EndsList (memberTokens members ++ .blockEnd :: rest) := by
  cases members with
  | nil => exact ⟨_, _, rfl, by simp⟩
  | cons member members => exact ⟨_, _, rfl, by simp⟩

theorem parses_member {depth : Nat} {key : String} {v : Json} (hv : v.Tidy depth)
    (hparses : ParsesValue v) (hrest : EndsList rest) :
    Parses (3 + 3 * (valueTokens (isSimpleKey key.toList) v).length)
      ⟨.key :: textToken key.toList :: .value :: (valueTokens (isSimpleKey key.toList) v ++ rest),
        .blockKey :: goals, handles, events⟩
      ⟨rest, .blockKey :: goals, handles,
        (valueEvents writtenStyle v).reverse ++ .scalar {} key.toList (writtenStyle key.toList) :: events⟩ := by
  let e : Event := .scalar {} key.toList (writtenStyle key.toList)
  let tokens := valueTokens (isSimpleKey key.toList) v ++ rest
  have hkey : Parses 1
      ⟨.key :: textToken key.toList :: .value :: tokens, .blockKey :: goals, handles, events⟩
      ⟨textToken key.toList :: .value :: tokens, .node true true :: .blockValue :: goals, handles,
        events⟩ := parses_step rfl
  have htext : Parses 1
      ⟨textToken key.toList :: .value :: tokens, .node true true :: .blockValue :: goals, handles,
        events⟩
      ⟨.value :: tokens, .blockValue :: goals, handles, e :: events⟩ := parses_step rfl
  have hmark : Parses 1 ⟨.value :: tokens, .blockValue :: goals, handles, e :: events⟩
      ⟨tokens, .node true true :: .blockKey :: goals, handles, e :: events⟩ :=
    parses_step (@nodeUnless?_value (.blockKey :: goals) handles rest (e :: events) depth v hv
      (isSimpleKey key.toList) endsBlockPart (fun _ hpart _ => hpart) true true)
  exact ((hkey.trans htext).trans hmark).trans
    (hparses _ true rest (.blockKey :: goals) handles (e :: events) fun _ => ⟨rfl, hrest⟩)

theorem parses_members {depth : Nat} {members : List (String × Json)}
    (htidy : ∀ m ∈ members, m.2.Tidy depth) (hparses : ∀ m ∈ members, ParsesValue m.2) :
    Parses (3 * (memberTokens members).length)
      ⟨memberTokens members ++ .blockEnd :: rest, .blockKey :: goals, handles, events⟩
      ⟨.blockEnd :: rest, .blockKey :: goals, handles,
        (memberEvents writtenStyle members).reverse ++ events⟩ := by
  induction members generalizing events with
  | nil => exact .refl _
  | cons member members ih =>
    obtain ⟨key, v⟩ := member
    have hmember := @parses_member goals handles _ events depth key v
      (htidy _ List.mem_cons_self) (hparses _ List.mem_cons_self)
      (@endsList_memberTokens rest members)
    have hmembers := @ih ((valueEvents writtenStyle v).reverse ++
        .scalar {} key.toList (writtenStyle key.toList) :: events)
      (fun m hm => htidy m (List.mem_cons_of_mem _ hm))
      fun m hm => hparses m (List.mem_cons_of_mem _ hm)
    have htokens : memberTokens ((key, v) :: members) ++ .blockEnd :: rest =
        .key :: textToken key.toList :: .value :: (valueTokens (isSimpleKey key.toList) v ++
          (memberTokens members ++ .blockEnd :: rest)) := by
      simp [memberTokens]
    have hevents : (memberEvents writtenStyle ((key, v) :: members)).reverse ++ events =
        (memberEvents writtenStyle members).reverse ++ ((valueEvents writtenStyle v).reverse ++
          .scalar {} key.toList (writtenStyle key.toList) :: events) := by
      simp [memberEvents]
    rw [htokens, hevents]
    refine (hmember.trans hmembers).mono ?_
    simp only [memberTokens, List.length_append, List.length_cons, List.length_nil]
    omega

theorem parsesValue_object {depth : Nat} {members : List (String × Json)}
    (htidy : ∀ m ∈ members, m.2.Tidy depth) (hparses : ∀ m ∈ members, ParsesValue m.2) :
    ParsesValue (.object members) := by
  intro bare bare' rest goals handles events _
  cases members with
  | nil =>
    have hstart : Parses 1
        ⟨.flowMapStart :: .flowMapEnd :: rest, .node true bare' :: goals, handles, events⟩
        ⟨.flowMapEnd :: rest, .flowKey true :: goals, handles, .mapStart {} :: events⟩ :=
      parses_step rfl
    have hend : Parses 1
        ⟨.flowMapEnd :: rest, .flowKey true :: goals, handles, .mapStart {} :: events⟩
        ⟨rest, goals, handles, .mapEnd :: .mapStart {} :: events⟩ := parses_step rfl
    exact (hstart.trans hend).mono (Nat.le_of_ble_eq_true rfl)
  | cons member members =>
    have hstart : Parses 1
        ⟨.blockMapStart :: (memberTokens (member :: members) ++ .blockEnd :: rest),
          .node true bare' :: goals, handles, events⟩
        ⟨memberTokens (member :: members) ++ .blockEnd :: rest, .blockKey :: goals, handles,
          .mapStart {} :: events⟩ := parses_step rfl
    have hend (events : List Event) : Parses 1
        ⟨.blockEnd :: rest, .blockKey :: goals, handles, events⟩
        ⟨rest, goals, handles, .mapEnd :: events⟩ := parses_step rfl
    have hrun := (hstart.trans (parses_members htidy hparses)).trans (hend _)
    have htokens : valueTokens bare (.object (member :: members)) ++ rest =
        .blockMapStart :: (memberTokens (member :: members) ++ .blockEnd :: rest) := by
      simp [valueTokens]
    have hevents : (valueEvents writtenStyle (.object (member :: members))).reverse ++ events =
        .mapEnd :: ((memberEvents writtenStyle (member :: members)).reverse ++ .mapStart {} :: events) := by
      simp [valueEvents]
    rw [htokens, hevents]
    refine hrun.mono ?_
    simp only [valueTokens, List.length_append, List.length_cons, List.length_nil]
    omega

/-! ## Values -/

theorem parsesValue {depth : Nat} {v : Json} (hv : v.Tidy depth) : ParsesValue v := by
  have hscalar (s : List Char) (style : ScalarStyle) (bare' : Bool) (rest : List Token)
      (goals : List Goal) (handles : Handles) (events : List Event) :
      Parses 3 ⟨.scalar s style :: rest, .node true bare' :: goals, handles, events⟩
        ⟨rest, goals, handles, .scalar {} s style :: events⟩ :=
    (parses_scalar s style true bare').mono (by decide)
  induction hv with
  | null => exact fun _ bare' rest goals handles events _ => hscalar _ _ bare' rest goals handles events
  | bool b =>
    cases b <;>
      exact fun _ bare' rest goals handles events _ => hscalar _ _ bare' rest goals handles events
  | number => exact fun _ bare' rest goals handles events _ => hscalar _ _ bare' rest goals handles events
  | text s => exact fun _ bare' rest goals handles events _ => hscalar _ _ bare' rest goals handles events
  | list htidy ih => exact parsesValue_list htidy ih
  | object _ htidy ih => exact parsesValue_object htidy ih

theorem run_of_no_goals (fuel : Nat) {p : Parse} (h : p.goals = []) : run fuel p = p := by
  cases fuel with
  | zero => rfl
  | succ fuel =>
    have : p.step? = none := by rw [step?, h]
    rw [run, this]

end Parse

/-- The tokens of a node that tell its events are a document. -/
theorem events_of_parses {tokens : List Token} {told : List Event}
    (hstart : Parse.step? ⟨tokens ++ [.streamEnd], [.document true], [], []⟩ =
      some ⟨tokens ++ [.streamEnd], [.node true false, .documentEnd], defaultHandles,
        [.documentStart]⟩)
    (hnode : Parse.Parses (3 * tokens.length)
      ⟨tokens ++ [.streamEnd], [.node true false, .documentEnd], defaultHandles, [.documentStart]⟩
      ⟨[.streamEnd], [.documentEnd], defaultHandles, told.reverse ++ [.documentStart]⟩) :
    events (.streamStart :: tokens ++ [.streamEnd]) =
      .documentStart :: told ++ [.documentEnd, .streamEnd] := by
  have hend (events : List Event) : Parse.Parses 2
      ⟨[.streamEnd], [.documentEnd], defaultHandles, events⟩
      ⟨[], [], defaultHandles, .streamEnd :: .documentEnd :: events⟩ :=
    (Parse.parses_step (q := ⟨[.streamEnd], [.document false], defaultHandles,
      .documentEnd :: events⟩) rfl).trans (Parse.parses_step rfl)
  obtain ⟨n, hn, hrun⟩ := ((Parse.parses_step hstart).trans hnode).trans (hend _)
  let whole := tokens ++ [Token.streamEnd]
  have hfuel : 8 * (whole.length + 2) = 8 * (whole.length + 2) - n + n := by
    have : whole.length = tokens.length + 1 := List.length_append
    omega
  change (Parse.run (8 * (whole.length + 2)) ⟨whole, [.document true], [], []⟩).events.reverse = _
  rw [hfuel, hrun, Parse.run_of_no_goals _ rfl]
  simp

theorem events_document {member : String × Json} {members : List (String × Json)} {depth : Nat}
    (hv : (Json.object (member :: members)).Tidy depth) :
    events (.streamStart :: valueTokens false (.object (member :: members)) ++ [.streamEnd]) =
      .documentStart :: valueEvents writtenStyle (.object (member :: members)) ++
        [.documentEnd, .streamEnd] :=
  events_of_parses rfl (Parse.parsesValue hv false false [.streamEnd] [.documentEnd] defaultHandles
    [.documentStart] fun h => Bool.noConfusion h)

/-! ## The value -/

/-- A written document is sound, and its root is the tree of what was written. -/
theorem Document.ofText_write {member : String × Json} {members : List (String × Json)} {depth : Nat}
    (hv : (Json.object (member :: members)).Tidy depth) :
    ∃ size, ofText (write (.object (member :: members))).toList =
      ⟨some (treeOf writtenStyle (.object (member :: members))), size, true⟩ := by
  rw [ofText, tokens_write hv, events_document hv]
  exact ofEvents_document hv.wellFormed

theorem scalarValue?_written (s : List Char) :
    scalarValue? none s (writtenStyle s) = some (.text (String.ofList s)) := by
  have hstyled := styled s
  rw [writtenStyle]
  cases hstyle : styleOf s <;> rw [hstyle] at hstyled <;> cases hstyled
  case plain hresolve =>
    change resolutionValue? s (resolve s) = _
    rw [hresolve, resolutionValue?]
  all_goals rfl

/-- A written object is read back. -/
theorem value?_write {member : String × Json} {members : List (String × Json)}
    (hv : (Json.object (member :: members)).Tidy nestingLimit) :
    value? (write (.object (member :: members))) = some (.object (member :: members)) := by
  obtain ⟨size, htext⟩ := Document.ofText_write hv
  rw [value?, htext]
  dsimp only
  rw [nodeValue_treeOf _ scalarValue?_written hv.wellFormed]
  rfl

end LoginGate.Yaml
