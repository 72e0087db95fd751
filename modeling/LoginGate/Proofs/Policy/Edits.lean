import Mathlib.Logic.Relation
import LoginGate.Compilation
import LoginGate.Proofs.Policy.Sections

/-!
# Edits that make no difference

A field that is null counts as one that is not there, fields with unknown names are passed over, and
so are entries of a rule list that are no objects.  `Edit` lists what may be added to a value on
these grounds, in any section of a policy:

    Edit h x y → h.Same x y                                                          (Edit.same)

Values that come from each other by adding and removing such parts are refused both, or are read as
one policy (`ofJsonValue_of_edits`).
-/

namespace LoginGate.Policy

/-- Do two records differ by the value of field `k` only, whether they are objects or lists? -/
inductive Differ (names : List String) (k : String) (x y : Json) : Json → Json → Prop
  | member {before after : List (String × Json)} :
      Differ names k x y (.object (before ++ (k, x) :: after)) (.object (before ++ (k, y) :: after))
  | position {before after : List Json} : names[before.length]? = some k →
      Differ names k x y (.list (before ++ x :: after)) (.list (before ++ y :: after))

/-- Values of which the second holds one part more than the first, which counts for nothing. -/
inductive Edit : Holding → Json → Json → Prop
  /-- A null field. -/
  | null {s : Section} {k : String} {before after : List (String × Json)} : k ∈ s.names →
      k ∉ (before ++ after).map Prod.fst →
      Edit (.one s) (.object (before ++ after)) (.object (before ++ (k, .null) :: after))
  /-- A field with an unknown name. -/
  | unknown {s : Section} {k : String} {value : Json} {before after : List (String × Json)} :
      k ∉ s.names →
      Edit (.one s) (.object (before ++ after)) (.object (before ++ (k, value) :: after))
  /-- A part of what a field holds. -/
  | field {s : Section} {k : String} {h : Holding} {x y m n : Json} : s.Holds k h → Edit h x y →
      Differ s.names k x y m n → Edit (.one s) m n
  /-- A part of an entry. -/
  | entry {s : Section} {x y : Json} {before after : List Json} : Edit (.one s) x y →
      Edit (.many s) (.list (before ++ x :: after)) (.list (before ++ y :: after))
  /-- An entry that is no object. -/
  | dropped {s : Section} {x : Json} {before after : List Json} : x.isObject = false →
      Edit (.many s) (.list (before ++ after)) (.list (before ++ x :: after))

/-! ## Members that count for nothing -/

section

variable {names : List String} {members before after : List (String × Json)} {k : String}
  {value : Json}

theorem NamesOnce.perm {other : List (String × Json)} (h : members.Perm other) :
    NamesOnce names members ↔ NamesOnce names other :=
  ((h.map Prod.fst).filter _).nodup_iff

theorem valueOf_insert_of_ne {name : String} (h : name ≠ k) :
    valueOf (before ++ (k, value) :: after) name = valueOf (before ++ after) name := by
  rw [valueOf, valueOf, List.lookup_append, List.lookup_append, List.lookup_cons,
    beq_eq_false_iff_ne.2 h]

/-- One more member makes no difference to the values of the fields, if it is null and its field
was not given before, or if it belongs to no field. -/
theorem memberValues?_insert (hnew : k ∈ names → k ∉ (before ++ after).map Prod.fst)
    (hnull : k ∈ names → value = .null) :
    memberValues? names (before ++ (k, value) :: after) =
      memberValues? names (before ++ after) := by
  have honce : NamesOnce names (before ++ (k, value) :: after) ↔
      NamesOnce names (before ++ after) := by
    rw [NamesOnce.perm List.perm_middle, namesOnce_cons]
    exact and_iff_right hnew
  have hvalues : names.map (valueOf (before ++ (k, value) :: after)) =
      names.map (valueOf (before ++ after)) := by
    refine List.map_congr_left fun name hname => ?_
    by_cases heq : name = k
    · subst heq
      have hnone : (before ++ after).lookup name = none :=
        Option.not_isSome_iff_eq_none.1 fun hs =>
          hnew hname (KeyMap.lookup_isSome_iff.1 hs)
      have hsome : (before ++ (name, value) :: after).lookup name = some value := by
        rw [List.lookup_append, Option.or_eq_none_iff] at hnone
        rw [List.lookup_append, hnone.1, List.lookup_cons_self, Option.none_or]
      rw [valueOf_of_none hnone, valueOf_of_some hsome, hnull hname]
    · exact valueOf_insert_of_ne heq
  simp only [memberValues?, honce, hvalues]

end

/-! ## Sections that differ by one field -/

section

variable {s : Section} {k : String} {h : Holding} {x y m n : Json}

theorem Differ.members {names : List String} (hd : Differ names k x y m n) :
    (recordMembers? names m = none ∧ recordMembers? names n = none) ∨
      ∃ before after, recordMembers? names m = some (before ++ (k, x) :: after) ∧
        recordMembers? names n = some (before ++ (k, y) :: after) := by
  cases hd with
  | @member before after => exact Or.inr ⟨before, after, rfl, rfl⟩
  | @position before after hk =>
    obtain ⟨hlength, rfl⟩ := List.getElem?_eq_some_iff.1 hk
    have hle : before.length ≤ names.length := Nat.le_of_lt hlength
    have hzip (z : Json) : names.zip (before ++ z :: after) =
        (names.take before.length).zip before ++
          (names[before.length], z) :: (names.drop (before.length + 1)).zip after := by
      rw [← List.zip_cons_cons, ← List.zip_append (List.length_take_of_le hle),
        ← List.drop_eq_getElem_cons hlength, List.take_append_drop]
    simp only [recordMembers?, List.length_append, List.length_cons, hzip]
    split
    · exact Or.inr ⟨_, _, rfl, rfl⟩
    · exact Or.inl ⟨rfl, rfl⟩

/-- Sections with members that differ by one field are read to the same. -/
theorem Section.Holds.takeAll?_eq (hh : s.Holds k h) (hsame : h.Same x y)
    (before after : List (String × Json)) :
    takeAll? s.fields (s.names.map (valueOf (before ++ (k, x) :: after))) s.empty =
      takeAll? s.fields (s.names.map (valueOf (before ++ (k, y) :: after))) s.empty := by
  simp only [takeAll?, Section.names, zip_valueOf, fieldsWithValues, List.foldl_map]
  refine List.foldl_ext _ _ _ fun record f hf => ?_
  by_cases hname : f.1 = k
  · simp only [valueOf, List.lookup_append, hname, List.lookup_cons_self]
    cases before.lookup k with
    | none => exact hh.take?_eq hf hname hsame record
    | some _ => rfl
  · rw [valueOf_insert_of_ne hname, valueOf_insert_of_ne hname]

theorem Section.Holds.read_of_differ (hh : s.Holds k h) (hsame : h.Same x y)
    (hd : Differ s.names k x y m n) : (s.read m).toOption = (s.read n).toOption := by
  rw [s.read_toOption, s.read_toOption]
  rcases hd.members with ⟨hm, hn⟩ | ⟨before, after, hm, hn⟩
  · rw [fieldValues?, fieldValues?, hm, hn]
  · have honce : NamesOnce s.names (before ++ (k, x) :: after) ↔
        NamesOnce s.names (before ++ (k, y) :: after) := by
      rw [NamesOnce, NamesOnce, List.map_append, List.map_append, List.map_cons, List.map_cons]
    simp only [fieldValues?, memberValues?, hm, hn, Option.bind_some, honce]
    split
    · exact hh.takeAll?_eq hsame before after
    · rfl

end

/-! ## Edits -/

theorem same_object {s : Section} {m n : List (String × Json)}
    (h : memberValues? s.names m = memberValues? s.names n) :
    (Holding.one s).Same (.object m) (.object n) where
  left := by simp
  right := by simp
  read := by
    have hvalues : fieldValues? s.names (.object m) = fieldValues? s.names (.object n) := h
    exact (s.read_toOption _).trans
      ((congrArg (Option.bind · _) hvalues).trans (s.read_toOption _).symm)

theorem same_list {s : Section} {items others : List Json}
    (h : (items.filter Json.isObject).mapM (fun entry => (s.read entry).toOption) =
      (others.filter Json.isObject).mapM fun entry => (s.read entry).toOption) :
    (Holding.many s).Same (.list items) (.list others) where
  left := by simp
  right := by simp
  read := (readRules_list s.read items).trans (h.trans (readRules_list s.read others).symm)

/-- An edit keeps what is read, and an object is still one. -/
theorem Edit.same {h : Holding} {x y : Json} (he : Edit h x y) :
    h.Same x y ∧ x.isObject = y.isObject := by
  induction he with
  | null _ hk => exact ⟨same_object (memberValues?_insert (fun _ => hk) fun _ => rfl).symm, rfl⟩
  | unknown hk =>
    refine ⟨same_object (memberValues?_insert ?_ ?_).symm, rfl⟩
    · exact fun h => absurd h hk
    · exact fun h => absurd h hk
  | field hh _ hd ih =>
    have hread := hh.read_of_differ ih.1 hd
    cases hd with
    | member => exact ⟨⟨by simp, by simp, hread⟩, rfl⟩
    | position => exact ⟨⟨by simp, by simp, hread⟩, rfl⟩
  | @entry s x y before after _ ih =>
    obtain ⟨hsame, hkind⟩ := ih
    refine ⟨same_list ?_, rfl⟩
    rw [List.filter_append, List.filter_append, List.filter_cons, List.filter_cons, ← hkind]
    split
    · rw [List.mapM_append, List.mapM_append, List.mapM_cons, List.mapM_cons]
      have hread : (s.read x).toOption = (s.read y).toOption := hsame.read
      rw [hread]
    · rfl
  | @dropped s x before after hx =>
    refine ⟨same_list ?_, rfl⟩
    rw [List.filter_append, List.filter_append, List.filter_cons_of_neg (by simp [hx])]

theorem ReadFault.exists_toError (fault : ReadFault) :
    ∃ e, fault.toError = .configuration e := by
  cases fault <;> exact ⟨_, rfl⟩

theorem ofJsonValue_of_toOption {v w : Json}
    (h : (Section.policy.read v).toOption = (Section.policy.read w).toOption) :
    (∃ e e', ofJsonValue v = .error (.configuration e) ∧
        ofJsonValue w = .error (.configuration e')) ∨
      ∃ p, ofJsonValue v = .ok p ∧ ofJsonValue w = .ok p := by
  have hpolicy (u : Json) :
      ofJsonValue u = (Section.policy.read u).mapError ReadFault.toError := rfl
  rw [hpolicy, hpolicy]
  cases hv : Section.policy.read v with
  | error fault =>
    rw [hv] at h
    cases hw : Section.policy.read w with
    | error fault' =>
      obtain ⟨e, he⟩ := fault.exists_toError
      obtain ⟨e', he'⟩ := fault'.exists_toError
      exact Or.inl ⟨e, e', congrArg Except.error he, congrArg Except.error he'⟩
    | ok q =>
      rw [hw] at h
      cases h
  | ok p =>
    rw [hv] at h
    exact Or.inr ⟨p, rfl, by rw [eq_ok_of_toOption h.symm]; rfl⟩

/-- **Edits make no difference.**  A policy, whatever null fields, fields with unknown names and
entries that are no objects are added to it and removed from it, in any section and any number of
times, is refused each time, or is read as the same policy; so it is compiled to the same. -/
theorem ofJsonValue_of_edits {v w : Json} (h : Relation.EqvGen (Edit (.one .policy)) v w) :
    ((∃ e e', ofJsonValue v = .error (.configuration e) ∧
        ofJsonValue w = .error (.configuration e')) ∨
      ∃ p, ofJsonValue v = .ok p ∧ ofJsonValue w = .ok p) ∧
    ∀ (c : Compiler) (fetch : Identity.Fetch) (p q : Policy), ofJsonValue v = .ok p →
      ofJsonValue w = .ok q → (c.compileFilter p).run fetch = (c.compileFilter q).run fetch := by
  have hread : (Section.policy.read v).toOption = (Section.policy.read w).toOption := by
    induction h with
    | rel v w he => exact he.same.1.read
    | refl v => rfl
    | symm v w _ ih => exact ih.symm
    | trans u v w _ _ ih ih' => exact ih.trans ih'
  have halike := ofJsonValue_of_toOption hread
  refine ⟨halike, fun c fetch p q hp hq => ?_⟩
  rcases halike with ⟨e, _, he, -⟩ | ⟨r, hv, hw⟩
  · rw [he] at hp
    cases hp
  · rw [Except.ok.inj (hp.symm.trans hv), Except.ok.inj (hq.symm.trans hw)]

/-- A policy with the given rules; `others` are its other members. -/
def withAuthRules (others : List (String × Json)) (rules : List Json) : Json :=
  .object (others ++ [("spec", .object [("authRules", .list rules)])])

theorem edit_withAuthRules (others : List (String × Json)) {rules rules' : List Json}
    (h : Edit (.many .authRule) (.list rules) (.list rules')) :
    Edit (.one .policy) (withAuthRules others rules) (withAuthRules others rules') :=
  .field .spec (.field .authRules h (@Differ.member _ _ _ _ [] []))
    (@Differ.member _ _ _ _ others [])

/-- Null metadata, a null condition, an unknown field and an entry that is no object. -/
theorem ofJsonValue_of_edits_rule :
    Relation.EqvGen (Edit (.one .policy))
      (withAuthRules [] [.object [("paths", .list [.text "/a"])]])
      (withAuthRules [("metadata", .null)] [.text "/b",
        .object [("note", .bool true), ("paths", .list [.text "/a"]), ("when", .null)]]) ∧
    ∃ p : Policy, p.spec.authRules = [⟨⟨["/a"], []⟩, none⟩] ∧
      ofJsonValue (withAuthRules [] [.object [("paths", .list [.text "/a"])]]) = .ok p ∧
      ofJsonValue (withAuthRules [("metadata", .null)] [.text "/b",
        .object [("note", .bool true), ("paths", .list [.text "/a"]), ("when", .null)]]) =
        .ok p := by
  have hmetadata := @Edit.null .policy "metadata" []
    [("spec", .object [("authRules", .list [.object [("paths", .list [.text "/a"])]])])]
    (by decide) (by decide)
  have hcondition := edit_withAuthRules [("metadata", .null)] (@Edit.entry .authRule _ _ [] []
    (@Edit.null .authRule "when" [("paths", .list [.text "/a"])] [] (by decide) (by decide)))
  have hnote := edit_withAuthRules [("metadata", .null)] (@Edit.entry .authRule _ _ [] []
    (@Edit.unknown .authRule "note" (.bool true) []
      [("paths", .list [.text "/a"]), ("when", .null)] (by decide)))
  have hentry := edit_withAuthRules [("metadata", .null)] (@Edit.dropped .authRule (.text "/b") []
    [.object [("note", .bool true), ("paths", .list [.text "/a"]), ("when", .null)]] rfl)
  have hedits := ((Relation.EqvGen.rel _ _ hmetadata).trans _ _ _ (.rel _ _ hcondition)).trans _ _ _
    ((Relation.EqvGen.rel _ _ hnote).trans _ _ _ (.rel _ _ hentry))
  refine ⟨hedits, { spec := { authRules := [⟨⟨["/a"], []⟩, none⟩] } }, rfl, rfl, ?_⟩
  rcases (ofJsonValue_of_edits hedits).1 with ⟨e, _, he, -⟩ | ⟨p, hspare, hpadded⟩
  · cases he
  · exact hpadded.trans (hspare.symm.trans rfl)

end LoginGate.Policy
