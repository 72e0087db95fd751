import LoginGate.Proofs.Yaml.FlowTokens
import LoginGate.Proofs.Yaml.WrittenEvents
import Mathlib.Tactic.IntervalCases

/-!
# The events of compact JSON

The tokens of a value in flow style tell its events, with all texts quoted (`parsesFlow`), so compact
JSON is one document whose root is the tree of the value:

    Document.ofText (compactChars v) = ⟨some (treeOf quotedStyle v), size, true⟩   (ofText_compact)

and the value is read back from it (`value?_compact`).
-/

namespace LoginGate.Yaml

open LoginGate.Text LoginGate.Json

/-- All texts are quoted. -/
def quotedStyle : List Char → ScalarStyle := fun _ => .quoted

namespace Parse

/-- The tokens of a value in flow style tell its events. -/
def ParsesFlow (v : Json) : Prop :=
  ∀ (block bare : Bool) (rest : List Token) (goals : List Goal) (handles : Handles)
    (events : List Event), Parses (3 * (flowTokens v).length)
      ⟨flowTokens v ++ rest, .node block bare :: goals, handles, events⟩
      ⟨rest, goals, handles, (valueEvents quotedStyle v).reverse ++ events⟩

variable {goals : List Goal} {handles : Handles} {rest : List Token} {events : List Event}

/-- The tokens that a value in flow style starts with. -/
inductive StartsFlow : Token → Prop
  | list : StartsFlow .flowListStart
  | map : StartsFlow .flowMapStart
  | scalar (text : List Char) (style : ScalarStyle) : StartsFlow (.scalar text style)

theorem flowTokens_eq_cons (v : Json) : ∃ t tokens, flowTokens v = t :: tokens ∧ StartsFlow t := by
  cases v with
  | bool b => cases b <;> exact ⟨_, _, rfl, .scalar _ _⟩
  | null => exact ⟨_, _, rfl, .scalar _ _⟩
  | number n => exact ⟨_, _, rfl, .scalar _ _⟩
  | text s => exact ⟨_, _, rfl, .scalar _ _⟩
  | list items => exact ⟨_, _, rfl, .list⟩
  | object members => exact ⟨_, _, rfl, .map⟩

theorem nodeUnless?_flow (v : Json) {ends : Token → Bool} (hends : ∀ t, StartsFlow t → ends t = false)
    (block bare : Bool) :
    nodeUnless? ⟨flowTokens v ++ rest, goals, handles, events⟩ ends block bare goals =
      some ⟨flowTokens v ++ rest, .node block bare :: goals, handles, events⟩ := by
  obtain ⟨t, tokens, ht, hstart⟩ := flowTokens_eq_cons v
  rw [ht, nodeUnless?, List.cons_append]
  dsimp only
  rw [hends t hstart, if_neg Bool.false_ne_true]

/-- The comma in front of an entry that is not the first. -/
def commaBefore (first : Bool) : List Token := if first then [] else [.flowEntry]

/-! ## Lists -/

theorem parses_flowItem {v : Json} (h : ParsesFlow v) (first : Bool) :
    Parses (1 + 3 * (flowTokens v).length)
      ⟨commaBefore first ++ flowTokens v ++ rest, .flowItem first :: goals, handles, events⟩
      ⟨rest, .flowItem false :: goals, handles, (valueEvents quotedStyle v).reverse ++ events⟩ := by
  refine Parses.trans (parses_step ?_) (h false false rest (.flowItem false :: goals) handles events)
  obtain ⟨t, tokens, ht, hstart⟩ := flowTokens_eq_cons v
  rw [ht]
  cases first <;> cases hstart <;> rfl

theorem parses_flowItems {v : Json} {items : List Json} (h : ∀ w ∈ v :: items, ParsesFlow w)
    (first : Bool) :
    Parses (1 + 3 * (flowItemTokens (v :: items)).length)
      ⟨commaBefore first ++ flowItemTokens (v :: items) ++ rest, .flowItem first :: goals, handles,
        events⟩
      ⟨rest, .flowItem false :: goals, handles,
        (itemEvents quotedStyle (v :: items)).reverse ++ events⟩ := by
  have hv := h v List.mem_cons_self
  induction items generalizing v first events with
  | nil =>
    have hevents : itemEvents quotedStyle [v] = valueEvents quotedStyle v := by simp [itemEvents]
    rw [hevents]
    exact parses_flowItem hv first
  | cons w items ih =>
    have hitem := @parses_flowItem goals handles (.flowEntry :: flowItemTokens (w :: items) ++ rest)
      events v hv first
    have hitems := @ih ((valueEvents quotedStyle v).reverse ++ events) w
      (fun x hx => h x (List.mem_cons_of_mem v hx)) false (h w (by simp))
    have htokens : commaBefore first ++ flowItemTokens (v :: w :: items) ++ rest =
        commaBefore first ++ flowTokens v ++ (.flowEntry :: flowItemTokens (w :: items) ++ rest) := by
      simp [flowItemTokens]
    have hevents : (itemEvents quotedStyle (v :: w :: items)).reverse ++ events =
        (itemEvents quotedStyle (w :: items)).reverse ++
          ((valueEvents quotedStyle v).reverse ++ events) := by
      simp [itemEvents]
    rw [htokens, hevents]
    refine (hitem.trans hitems).mono ?_
    simp only [flowItemTokens, List.length_append, List.length_cons]
    omega

theorem parsesFlow_list {items : List Json} (h : ∀ v ∈ items, ParsesFlow v) :
    ParsesFlow (.list items) := by
  intro block bare rest goals handles events
  have hstart (tokens : List Token) : Parses 1
      ⟨.flowListStart :: tokens, .node block bare :: goals, handles, events⟩
      ⟨tokens, .flowItem true :: goals, handles, .listStart {} :: events⟩ := parses_step rfl
  have hend (first : Bool) (events : List Event) : Parses 1
      ⟨.flowListEnd :: rest, .flowItem first :: goals, handles, events⟩
      ⟨rest, goals, handles, .listEnd :: events⟩ := parses_step rfl
  cases items with
  | nil =>
    refine ((hstart (.flowListEnd :: rest)).trans (hend true _)).mono ?_
    exact Nat.le_of_ble_eq_true rfl
  | cons v items =>
    have hitems := @parses_flowItems goals handles (.flowListEnd :: rest) (.listStart {} :: events) v
      items h true
    have htokens : flowTokens (.list (v :: items)) ++ rest =
        .flowListStart :: (flowItemTokens (v :: items) ++ .flowListEnd :: rest) := by
      simp [flowTokens]
    have hevents : (valueEvents quotedStyle (.list (v :: items))).reverse ++ events =
        .listEnd :: ((itemEvents quotedStyle (v :: items)).reverse ++ .listStart {} :: events) := by
      simp [valueEvents]
    rw [htokens, hevents]
    refine (((hstart _).trans hitems).trans (hend false _)).mono ?_
    simp only [flowTokens, List.length_append, List.length_cons, List.length_nil]
    omega

/-! ## Maps -/

theorem parses_flowMember {key : String} {v : Json} (h : ParsesFlow v) (first : Bool) :
    Parses (3 + 3 * (flowTokens v).length)
      ⟨commaBefore first ++ .key :: .scalar key.toList .quoted :: .value :: (flowTokens v ++ rest),
        .flowKey first :: goals, handles, events⟩
      ⟨rest, .flowKey false :: goals, handles,
        (valueEvents quotedStyle v).reverse ++ .scalar {} key.toList .quoted :: events⟩ := by
  let e : Event := .scalar {} key.toList .quoted
  let tokens := flowTokens v ++ rest
  have hkey : Parses 1
      ⟨commaBefore first ++ .key :: .scalar key.toList .quoted :: .value :: tokens,
        .flowKey first :: goals, handles, events⟩
      ⟨.scalar key.toList .quoted :: .value :: tokens,
        .node false false :: .flowValue false :: goals, handles, events⟩ := by
    cases first <;> exact parses_step rfl
  have htext : Parses 1
      ⟨.scalar key.toList .quoted :: .value :: tokens,
        .node false false :: .flowValue false :: goals, handles, events⟩
      ⟨.value :: tokens, .flowValue false :: goals, handles, e :: events⟩ := parses_scalar _ _ _ _
  have hmark : Parses 1 ⟨.value :: tokens, .flowValue false :: goals, handles, e :: events⟩
      ⟨tokens, .node false false :: .flowKey false :: goals, handles, e :: events⟩ :=
    parses_step (@nodeUnless?_flow (.flowKey false :: goals) handles rest (e :: events) v endsMapPart
      (fun t ht => by cases ht <;> rfl) false false)
  exact ((hkey.trans htext).trans hmark).trans
    (h false false rest (.flowKey false :: goals) handles (e :: events))

theorem parses_flowMembers {m : String × Json} {members : List (String × Json)}
    (h : ∀ m' ∈ m :: members, ParsesFlow m'.2) (first : Bool) :
    Parses (3 * (flowMemberTokens (m :: members)).length)
      ⟨commaBefore first ++ flowMemberTokens (m :: members) ++ rest, .flowKey first :: goals, handles,
        events⟩
      ⟨rest, .flowKey false :: goals, handles,
        (memberEvents quotedStyle (m :: members)).reverse ++ events⟩ := by
  have hm := h m List.mem_cons_self
  induction members generalizing m first events with
  | nil =>
    obtain ⟨key, v⟩ := m
    have htokens : commaBefore first ++ flowMemberTokens [(key, v)] ++ rest = commaBefore first ++
        .key :: .scalar key.toList .quoted :: .value :: (flowTokens v ++ rest) := by
      simp [flowMemberTokens]
    have hevents : (memberEvents quotedStyle [(key, v)]).reverse ++ events =
        (valueEvents quotedStyle v).reverse ++ .scalar {} key.toList .quoted :: events := by
      simp [memberEvents, quotedStyle]
    rw [htokens, hevents]
    refine (parses_flowMember hm first).mono ?_
    simp only [flowMemberTokens, List.length_append, List.length_cons, List.length_nil]
    omega
  | cons m' members ih =>
    obtain ⟨key, v⟩ := m
    have hmember := @parses_flowMember goals handles (.flowEntry :: flowMemberTokens (m' :: members) ++
      rest) events key v hm first
    have hmembers := @ih ((valueEvents quotedStyle v).reverse ++
        .scalar {} key.toList .quoted :: events) m'
      (fun x hx => h x (List.mem_cons_of_mem _ hx)) false (h m' (by simp))
    have htokens : commaBefore first ++ flowMemberTokens ((key, v) :: m' :: members) ++ rest =
        commaBefore first ++ .key :: .scalar key.toList .quoted :: .value :: (flowTokens v ++
          (.flowEntry :: flowMemberTokens (m' :: members) ++ rest)) := by
      simp [flowMemberTokens]
    have hevents : (memberEvents quotedStyle ((key, v) :: m' :: members)).reverse ++ events =
        (memberEvents quotedStyle (m' :: members)).reverse ++ ((valueEvents quotedStyle v).reverse ++
          .scalar {} key.toList .quoted :: events) := by
      simp [memberEvents, quotedStyle]
    rw [htokens, hevents]
    refine (hmember.trans hmembers).mono ?_
    simp only [flowMemberTokens, List.length_append, List.length_cons, List.length_nil]
    omega

theorem parsesFlow_object {members : List (String × Json)} (h : ∀ m ∈ members, ParsesFlow m.2) :
    ParsesFlow (.object members) := by
  intro block bare rest goals handles events
  have hstart (tokens : List Token) : Parses 1
      ⟨.flowMapStart :: tokens, .node block bare :: goals, handles, events⟩
      ⟨tokens, .flowKey true :: goals, handles, .mapStart {} :: events⟩ := parses_step rfl
  have hend (first : Bool) (events : List Event) : Parses 1
      ⟨.flowMapEnd :: rest, .flowKey first :: goals, handles, events⟩
      ⟨rest, goals, handles, .mapEnd :: events⟩ := parses_step rfl
  cases members with
  | nil =>
    refine ((hstart (.flowMapEnd :: rest)).trans (hend true _)).mono ?_
    exact Nat.le_of_ble_eq_true rfl
  | cons m members =>
    have hmembers := @parses_flowMembers goals handles (.flowMapEnd :: rest) (.mapStart {} :: events) m
      members h true
    have htokens : flowTokens (.object (m :: members)) ++ rest =
        .flowMapStart :: (flowMemberTokens (m :: members) ++ .flowMapEnd :: rest) := by
      simp [flowTokens]
    have hevents : (valueEvents quotedStyle (.object (m :: members))).reverse ++ events =
        .mapEnd :: ((memberEvents quotedStyle (m :: members)).reverse ++ .mapStart {} :: events) := by
      simp [valueEvents]
    rw [htokens, hevents]
    refine (((hstart _).trans hmembers).trans (hend false _)).mono ?_
    simp only [flowTokens, List.length_append, List.length_cons, List.length_nil]
    omega

/-! ## Values -/

theorem parsesFlow {depth : Nat} {v : Json} (hv : v.WellFormed depth) : ParsesFlow v := by
  have hscalar (s : List Char) (style : ScalarStyle) (block bare : Bool) (rest : List Token)
      (goals : List Goal) (handles : Handles) (events : List Event) :
      Parses 3 ⟨.scalar s style :: rest, .node block bare :: goals, handles, events⟩
        ⟨rest, goals, handles, .scalar {} s style :: events⟩ :=
    (parses_scalar s style block bare).mono (by decide)
  induction hv with
  | null => exact hscalar _ _
  | bool b => cases b <;> exact hscalar _ _
  | number _ => exact hscalar _ _
  | text s => exact hscalar _ _
  | list _ ih => exact parsesFlow_list ih
  | object _ _ ih => exact parsesFlow_object ih

/-- At the start of a text with a value in flow style, a document is due. -/
theorem step?_document_flow (v : Json) :
    step? ⟨flowTokens v ++ [.streamEnd], [.document true], [], []⟩ =
      some ⟨flowTokens v ++ [.streamEnd], [.node true false, .documentEnd], defaultHandles,
        [.documentStart]⟩ := by
  obtain ⟨t, tokens, ht, hstart⟩ := flowTokens_eq_cons v
  rw [ht]
  cases hstart <;> rfl

end Parse

/-! ## Whole texts -/

theorem Document.ofText_flow {depth : Nat} {v : Json} (hv : v.WellFormed depth) {text : List Char}
    (h : tokens text = ⟨.streamStart :: flowTokens v ++ [.streamEnd], true⟩) :
    ∃ size, ofText text = ⟨some (treeOf quotedStyle v), size, true⟩ := by
  have hevents : events (.streamStart :: flowTokens v ++ [.streamEnd]) =
      .documentStart :: valueEvents quotedStyle v ++ [.documentEnd, .streamEnd] :=
    events_of_parses (Parse.step?_document_flow v)
      (Parse.parsesFlow hv true false [.streamEnd] [.documentEnd] defaultHandles [.documentStart])
  rw [ofText, h, hevents]
  exact ofEvents_document hv

/-- **Compact JSON is a sound document**, and its root is the tree of the value. -/
theorem Document.ofText_compact {depth : Nat} {v : Json} (hv : v.WellFormed depth)
    (hread : Legible v) :
    ∃ size, ofText (compactChars v) = ⟨some (treeOf quotedStyle v), size, true⟩ :=
  ofText_flow hv (tokens_compact hv hread)

/-- A text in quotes is a text. -/
theorem scalarValue?_quoted (s : List Char) :
    scalarValue? none s (quotedStyle s) = some (.text (String.ofList s)) := rfl

/-- Compact JSON is read back as YAML. -/
theorem value?_compact {v : Json} (hv : v.WellFormed nestingLimit) (hread : Legible v) :
    value? v.compact = some v := by
  obtain ⟨size, htext⟩ := Document.ofText_compact hv hread
  rw [value?, compact, String.toList_ofList, htext]
  dsimp only
  rw [nodeValue_treeOf _ scalarValue?_quoted hv]
  rfl

end LoginGate.Yaml
