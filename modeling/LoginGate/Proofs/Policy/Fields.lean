import Mathlib.Data.List.Nodup
import Mathlib.Data.List.Pairwise
import Mathlib.Data.List.Perm.Basic
import LoginGate.Policy.Document
import LoginGate.Proofs.Checks
import LoginGate.Proofs.Json.Members

/-!
# Records are read by their fields

The members of a record are read one after another, in the order in which they stand.  Where fields
are independent (`Independent`) only what each of them is given counts, and null is as good as
nothing:

    (ofJson.record fields empty n).toOption =
      (fieldValues? (fields.map Prod.fst) n).bind fun values => takeAll? fields values empty
                                                                              (record_toOption)

`fieldValues?` lists the values of all fields in order, null where none is given, so a record given
as a list and one given as an object come to the same thing.
-/

namespace LoginGate.Policy

variable {σ : Type}

/-- A field of a JSON record: its name, and what its value adds to the record. -/
abbrev JsonField (σ : Type) := String × (Json → σ → Except ReadFault σ)

/-- A value of a field taken into account, unless the record or the value was not read. -/
def take? (record : Option σ) (given : JsonField σ × Json) : Option σ :=
  record.bind fun r => (given.1.2 given.2 r).toOption

/-- The fields with their values taken into account, one after another. -/
def takeAll? (fields : List (JsonField σ)) (values : List Json) (empty : σ) : Option σ :=
  (fields.zip values).foldl take? (some empty)

/-- Do the fields of a record not depend on each other, and does null leave the record as it is? -/
structure Independent (fields : List (JsonField σ)) (empty : σ) : Prop where
  nodup : (fields.map Prod.fst).Nodup
  commute : fields.Pairwise fun f g => ∀ x y record,
    take? (take? record (f, x)) (g, y) = take? (take? record (g, y)) (f, x)
  null : ∀ f ∈ fields, f.2 .null empty = .ok empty

/-! ## Values of fields -/

/-- The members of a record with the given fields; those of a list are named by their places. -/
def recordMembers? (names : List String) : Json → Option (List (String × Json))
  | .object members => some members
  | .list items => if items.length ≤ names.length then some (names.zip items) else none
  | _ => none

/-- The value that is given for a field, or null. -/
def valueOf (members : List (String × Json)) (name : String) : Json :=
  (members.lookup name).getD .null

/-- Is no field given twice? -/
def NamesOnce (names : List String) (members : List (String × Json)) : Prop :=
  ((members.map Prod.fst).filter (· ∈ names)).Nodup

instance (names : List String) (members : List (String × Json)) :
    Decidable (NamesOnce names members) := inferInstanceAs (Decidable (List.Nodup _))

/-- The values that members have for the fields, in order, unless a field is given twice. -/
def memberValues? (names : List String) (members : List (String × Json)) : Option (List Json) :=
  if NamesOnce names members then some (names.map (valueOf members)) else none

/-- The values of the fields of a record, in order. -/
def fieldValues? (names : List String) (n : Json) : Option (List Json) :=
  (recordMembers? names n).bind (memberValues? names)

theorem valueOf_of_none {members : List (String × Json)} {name : String}
    (h : members.lookup name = none) : valueOf members name = .null := by
  rw [valueOf, h]
  rfl

theorem valueOf_of_some {members : List (String × Json)} {name : String} {value : Json}
    (h : members.lookup name = some value) : valueOf members name = value := by
  rw [valueOf, h]
  rfl

/-! ## Members one after another -/

/-- The members that belong to a field, each with its field. -/
def givenFields (fields : List (JsonField σ)) (members : List (String × Json)) :
    List (JsonField σ × Json) :=
  members.filterMap fun m => (fields.lookup m.1).map fun read => ((m.1, read), m.2)

theorem foldl_take?_none (given : List (JsonField σ × Json)) : given.foldl take? none = none := by
  induction given with
  | nil => rfl
  | cons _ given ih => exact ih

theorem namesOnce_cons {names : List String} {m : String × Json} {members : List (String × Json)} :
    NamesOnce names (m :: members) ↔
      (m.1 ∈ names → m.1 ∉ members.map Prod.fst) ∧ NamesOnce names members := by
  unfold NamesOnce
  rw [List.map_cons, List.filter_cons]
  by_cases h : m.1 ∈ names
  · rw [if_pos (by simpa using h), List.nodup_cons, List.mem_filter]
    simp [h]
  · rw [if_neg (by simpa using h)]
    simp [h]

theorem namesOnce_cons_fresh {names seen : List String} {m : String × Json}
    {members : List (String × Json)} (hm : m.1 ∈ names) (hseen : m.1 ∉ seen) :
    (NamesOnce names (m :: members) ∧ ∀ n ∈ m :: members, n.1 ∈ names → n.1 ∉ seen) ↔
      NamesOnce names members ∧ ∀ n ∈ members, n.1 ∈ names → n.1 ∉ m.1 :: seen := by
  rw [namesOnce_cons, List.forall_mem_cons]
  constructor
  · rintro ⟨⟨hnot, honce⟩, -, hfresh⟩
    refine ⟨honce, fun n hn hname h => ?_⟩
    rcases List.mem_cons.1 h with h | h
    · exact hnot hm (h ▸ List.mem_map_of_mem hn)
    · exact hfresh n hn hname h
  · rintro ⟨honce, hfresh⟩
    refine ⟨⟨fun _ h => ?_, honce⟩, fun _ => hseen, fun n hn hname h => ?_⟩
    · obtain ⟨n, hn, hname⟩ := List.mem_map.1 h
      exact hfresh n hn (hname ▸ hm) (hname ▸ List.mem_cons_self)
    · exact hfresh n hn hname (List.mem_cons_of_mem _ h)

theorem entry_eq (fields : List (JsonField σ)) (seen : List String) (record : σ)
    (m : String × Json) : ofJson.entry fields seen record (.text m.1, m.2) =
      match fields.lookup m.1 with
      | none => .ok (seen, record)
      | some read =>
        if m.1 ∈ seen then .error .invalid else (read m.2 record).map (m.1 :: seen, ·) := by
  simp only [NodeReader.entry, ofJson, pure_bind]
  cases fields.lookup m.1 with
  | none => rfl
  | some read =>
    dsimp only
    split
    · rfl
    · cases read m.2 record <;> rfl

/-- What is read of members: each that belongs to a field is taken into account, as long as no field
is given twice. -/
theorem foldlM_entry (fields : List (JsonField σ)) (members : List (String × Json))
    (seen : List String) (record : σ) :
    ((members.map fun m => (Json.text m.1, m.2)).foldlM
        (fun state pair => ofJson.entry fields state.1 state.2 pair)
        (seen, record)).toOption.map Prod.snd =
      if NamesOnce (fields.map Prod.fst) members ∧
          ∀ m ∈ members, m.1 ∈ fields.map Prod.fst → m.1 ∉ seen
      then (givenFields fields members).foldl take? (some record) else none := by
  -- on the members; the fields given so far are `seen`, what was read of them is `record`
  induction members generalizing seen record with
  | nil => exact (if_pos ⟨List.nodup_nil, fun _ h => by cases h⟩).symm
  | cons m members ih =>
    rw [List.map_cons, List.foldlM_cons, entry_eq]
    cases hread : fields.lookup m.1 with
    | none =>
      have hm : m.1 ∉ fields.map Prod.fst := by
        simp [← KeyMap.lookup_isSome_iff, hread]
      have hgiven : givenFields fields (m :: members) = givenFields fields members := by
        simp [givenFields, hread]
      refine (ih seen record).trans ?_
      simp only [namesOnce_cons, List.forall_mem_cons, hm, hgiven, false_implies, true_and]
    | some read =>
      have hm : m.1 ∈ fields.map Prod.fst := by
        simp [← KeyMap.lookup_isSome_iff, hread]
      have hgiven : givenFields fields (m :: members) =
          ((m.1, read), m.2) :: givenFields fields members := by
        simp [givenFields, hread]
      by_cases hseen : m.1 ∈ seen
      · rw [if_neg fun h => h.2 m List.mem_cons_self hm hseen]
        simp only [if_pos hseen]
        rfl
      · simp only [if_neg hseen, hgiven, List.foldl_cons]
        have htake : take? (some record) ((m.1, read), m.2) = (read m.2 record).toOption := rfl
        rw [htake]
        cases read m.2 record with
        | error fault =>
          rw [show (Except.error fault : Except ReadFault σ).toOption = none from rfl,
            foldl_take?_none, ite_self]
          rfl
        | ok next =>
          refine (ih (m.1 :: seen) next).trans (if_congr ?_ rfl rfl)
          exact (namesOnce_cons_fresh hm hseen).symm

/-! ## All fields at once -/

section

variable {fields : List (JsonField σ)} {empty : σ} {members : List (String × Json)}

/-- The fields with the values that members have for them. -/
def fieldsWithValues (fields : List (JsonField σ)) (members : List (String × Json)) :
    List (JsonField σ × Json) :=
  fields.map fun f => (f, valueOf members f.1)

theorem zip_valueOf (fields : List (JsonField σ)) (members : List (String × Json)) :
    fields.zip ((fields.map Prod.fst).map (valueOf members)) = fieldsWithValues fields members := by
  induction fields with
  | nil => rfl
  | cons f fields ih => exact congrArg (_ :: ·) ih

def missingFields (fields : List (JsonField σ)) (members : List (String × Json)) :
    List (JsonField σ) :=
  fields.filter fun f => (members.lookup f.1).isNone

theorem mem_givenFields (hfields : (fields.map Prod.fst).Nodup) {given : JsonField σ × Json} :
    given ∈ givenFields fields members ↔ given.1 ∈ fields ∧ (given.1.1, given.2) ∈ members := by
  obtain ⟨⟨name, read⟩, value⟩ := given
  simp only [givenFields, List.mem_filterMap, Option.map_eq_some_iff, Prod.mk.injEq]
  constructor
  · rintro ⟨m, hm, _, hread, ⟨rfl, rfl⟩, rfl⟩
    exact ⟨(KeyMap.lookup_eq_some_iff hfields).1 hread, hm⟩
  · rintro ⟨hf, hm⟩
    exact ⟨(name, value), hm, read, (KeyMap.lookup_eq_some_iff hfields).2 hf, ⟨rfl, rfl⟩, rfl⟩

theorem map_name_givenFields (fields : List (JsonField σ)) (members : List (String × Json)) :
    (givenFields fields members).map (fun given => given.1.1) =
      (members.map Prod.fst).filter (· ∈ fields.map Prod.fst) := by
  induction members with
  | nil => rfl
  | cons m members ih =>
    rw [List.map_cons, List.filter_cons, ← ih, givenFields, List.filterMap_cons]
    cases h : fields.lookup m.1 with
    | none =>
      have hm : m.1 ∉ fields.map Prod.fst := by simp [← KeyMap.lookup_isSome_iff, h]
      simp only [hm, decide_false]
      rfl
    | some read =>
      have hm : m.1 ∈ fields.map Prod.fst := by simp [← KeyMap.lookup_isSome_iff, h]
      simp only [hm, decide_true]
      rfl

theorem lookup_of_namesOnce {names : List String} (h : NamesOnce names members) {name : String}
    (hname : name ∈ names) {value : Json} :
    members.lookup name = some value ↔ (name, value) ∈ members := by
  have hfilter : (members.map Prod.fst).filter (· ∈ names) =
      (members.filter fun m => m.1 ∈ names).map Prod.fst := List.filter_map ..
  have honce : ((members.filter fun m => m.1 ∈ names).map Prod.fst).Nodup := hfilter ▸ h
  rw [← KeyMap.lookup_filter (p := (· ∈ names)) (decide_eq_true hname),
    KeyMap.lookup_eq_some_iff honce, List.mem_filter]
  exact and_iff_left (decide_eq_true hname)

theorem mem_fieldsWithValues_iff (hfields : (fields.map Prod.fst).Nodup)
    (h : NamesOnce (fields.map Prod.fst) members) {given : JsonField σ × Json} :
    given ∈ fieldsWithValues fields members ↔
      given ∈ (missingFields fields members).map (·, Json.null) ∨
        given ∈ givenFields fields members := by
  obtain ⟨f, value⟩ := given
  simp only [fieldsWithValues, missingFields, List.mem_map, List.mem_filter,
    mem_givenFields hfields, Prod.mk.injEq, Option.isNone_iff_eq_none]
  constructor
  · rintro ⟨f, hf, rfl, rfl⟩
    cases hlookup : members.lookup f.1 with
    | none => exact Or.inl ⟨f, ⟨hf, hlookup⟩, rfl, (valueOf_of_none hlookup).symm⟩
    | some v =>
      rw [valueOf_of_some hlookup]
      exact Or.inr ⟨hf, (lookup_of_namesOnce h (List.mem_map_of_mem hf)).1 hlookup⟩
  · rintro (⟨f, ⟨hf, hnone⟩, rfl, rfl⟩ | ⟨hf, hm⟩)
    · exact ⟨f, hf, rfl, valueOf_of_none hnone⟩
    · have hsome := (lookup_of_namesOnce h (List.mem_map_of_mem hf)).2 hm
      exact ⟨f, hf, rfl, valueOf_of_some hsome⟩

/-- The fields with their values are those that no member belongs to, and those that one does. -/
theorem fieldsWithValues_perm (hfields : (fields.map Prod.fst).Nodup)
    (h : NamesOnce (fields.map Prod.fst) members) :
    List.Perm (fieldsWithValues fields members)
      ((missingFields fields members).map (·, .null) ++ givenFields fields members) := by
  have hall : (fieldsWithValues fields members).Nodup := by
    refine List.Nodup.of_map (fun given => given.1.1) ?_
    rwa [fieldsWithValues, List.map_map]
  have hmissing : ((missingFields fields members).map (·, Json.null)).Nodup := by
    refine List.Nodup.of_map Prod.fst ?_
    rw [List.map_map]
    exact (hfields.of_map.filter _).map Function.injective_id
  have hgiven : (givenFields fields members).Nodup := by
    refine List.Nodup.of_map (fun given => given.1.1) ?_
    rw [map_name_givenFields]
    exact h
  have hdisjoint : List.Disjoint ((missingFields fields members).map (·, Json.null))
      (givenFields fields members) := by
    intro given hm hg
    obtain ⟨f, hf, rfl⟩ := List.mem_map.1 hm
    obtain ⟨hmem, hg⟩ := (mem_givenFields hfields).1 hg
    have hnone := Option.isNone_iff_eq_none.1 (List.mem_filter.1 hf).2
    rw [(lookup_of_namesOnce h (List.mem_map_of_mem hmem)).2 hg] at hnone
    cases hnone
  refine (List.perm_ext_iff_of_nodup hall (hmissing.append hgiven hdisjoint)).2 fun given => ?_
  rw [List.mem_append]
  exact mem_fieldsWithValues_iff hfields h

theorem foldl_take?_null (h : ∀ f ∈ fields, f.2 .null empty = .ok empty) :
    (fields.map (·, Json.null)).foldl take? (some empty) = some empty := by
  induction fields with
  | nil => rfl
  | cons f fields ih =>
    obtain ⟨hf, hfields⟩ := List.forall_mem_cons.1 h
    have htake : take? (some empty) (f, .null) = some empty := congrArg Except.toOption hf
    rw [List.map_cons, List.foldl_cons, htake, ih hfields]

/-- Members taken one after another come to the same as the values of all fields in order. -/
theorem Independent.foldl_givenFields (hind : Independent fields empty)
    (h : NamesOnce (fields.map Prod.fst) members) :
    (givenFields fields members).foldl take? (some empty) =
      takeAll? fields ((fields.map Prod.fst).map (valueOf members)) empty := by
  have hcommute : ∀ x ∈ fieldsWithValues fields members, ∀ y ∈ fieldsWithValues fields members,
      ∀ record, take? (take? record x) y = take? (take? record y) x := by
    intro x hx y hy record
    obtain ⟨f, hf, rfl⟩ := List.mem_map.1 hx
    obtain ⟨g, hg, rfl⟩ := List.mem_map.1 hy
    by_cases hfg : f = g
    · rw [hfg]
    · have : Std.Symm fun f g : JsonField σ => ∀ x y record,
          take? (take? record (f, x)) (g, y) = take? (take? record (g, y)) (f, x) :=
        ⟨fun _ _ hc x y record => (hc y x record).symm⟩
      exact hind.commute.forall hf hg hfg _ _ record
  have hnull : ((missingFields fields members).map (·, Json.null)).foldl take? (some empty) =
      some empty :=
    foldl_take?_null fun f hf => hind.null f (List.mem_of_mem_filter hf)
  rw [takeAll?, zip_valueOf, (fieldsWithValues_perm hind.nodup h).foldl_eq' hcommute,
    List.foldl_append, hnull]

end

/-! ## Records -/

variable {fields : List (JsonField σ)} {empty : σ}

theorem record_of_entries {n : Json} {entries : List (Json × Json)}
    (h : ofJson.fields (fields.map Prod.fst) n = .ok entries) :
    (ofJson.record fields empty n).toOption =
      (entries.foldlM (fun state pair => ofJson.entry fields state.1 state.2 pair)
        ([], empty)).toOption.map Prod.snd := by
  rw [NodeReader.record, h]
  change Except.toOption (List.foldlM _ _ entries >>= _) = _
  cases entries.foldlM (fun state pair => ofJson.entry fields state.1 state.2 pair) ([], empty) <;>
    rfl

/-- A record whose entries are the given members. -/
theorem record_of_members (hind : Independent fields empty) {n : Json}
    {members : List (String × Json)} (h : ofJson.fields (fields.map Prod.fst) n =
      .ok (members.map fun m => (Json.text m.1, m.2))) :
    (ofJson.record fields empty n).toOption =
      (memberValues? (fields.map Prod.fst) members).bind
        fun values => takeAll? fields values empty := by
  have hfresh : ∀ m ∈ members, m.1 ∈ fields.map Prod.fst → m.1 ∉ [] :=
    fun _ _ _ => List.not_mem_nil
  rw [record_of_entries h, foldlM_entry, memberValues?]
  by_cases honce : NamesOnce (fields.map Prod.fst) members
  · rw [if_pos ⟨honce, hfresh⟩, if_pos honce, hind.foldl_givenFields honce]
    rfl
  · rw [if_neg fun h => honce h.1, if_neg honce]
    rfl

/-- A list with more items than there are fields is no record. -/
theorem record_of_long {items : List Json} (h : fields.length < items.length) :
    (ofJson.record fields empty (.list items)).toOption = none := by
  obtain ⟨item, rest, hdrop⟩ :
      ∃ item rest, items.drop (fields.map Prod.fst).length = item :: rest :=
    List.exists_cons_of_ne_nil (by simpa using h)
  have hentries : ofJson.fields (fields.map Prod.fst) (.list items) =
      .ok ((((fields.map Prod.fst).zip items).map fun pair => (Json.text pair.1, pair.2)) ++
        (Json.null, item) :: rest.map fun item => (Json.null, item)) := by
    rw [← List.map_cons, ← hdrop]
    rfl
  rw [record_of_entries hentries, List.foldlM_append]
  cases (((fields.map Prod.fst).zip items).map fun pair => (Json.text pair.1, pair.2)).foldlM
      (fun state pair => ofJson.entry fields state.1 state.2 pair) ([], empty) <;> rfl

/-- **A record is what its fields are given.** -/
theorem record_toOption (hind : Independent fields empty) (n : Json) :
    (ofJson.record fields empty n).toOption =
      (fieldValues? (fields.map Prod.fst) n).bind fun values => takeAll? fields values empty := by
  cases n with
  | object members => exact record_of_members hind rfl
  | list items =>
    by_cases h : items.length ≤ (fields.map Prod.fst).length
    · have hentries : ofJson.fields (fields.map Prod.fst) (.list items) =
          .ok (((fields.map Prod.fst).zip items).map fun m => (Json.text m.1, m.2)) := by
        change Except.ok (_ ++ _) = _
        rw [List.drop_eq_nil_of_le h, List.map_nil, List.append_nil]
      rw [fieldValues?, recordMembers?, if_pos h]
      exact record_of_members hind hentries
    · rw [fieldValues?, recordMembers?, if_neg h]
      exact record_of_long (by simpa using h)
  | null | bool | number | text => rfl

end LoginGate.Policy
