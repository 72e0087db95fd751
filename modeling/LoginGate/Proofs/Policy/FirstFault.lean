import LoginGate.Proofs.Policy.Joining

/-!
# The fault of a policy that is reported

A policy is checked twice: by itself, before anything is fetched, and when it is joined with its
provider.  Both report the same fault, and it does not depend on the provider.  It is the first rule
path that is not accepted, the rules of requests that pass coming first; only where there is none it
is the one of the accepted resources:

    p.check = .error e ↔ ∃ fault, p.FirstFault fault ∧ e = .configuration fault
                                                                       (check_eq_error_iff)
    p.compiled endpoints target = .error e ↔ p.check = .error e     (compiled_agrees_with_check)
-/

namespace LoginGate.Policy

open LoginGate.Access

/-! ## What is accepted and what is reported -/

/-- The paths of the rules of a policy, in the order in which they are checked. -/
def rulePaths (p : Policy) : List String :=
  p.spec.ignoreRules.flatMap Matcher.paths ++ p.spec.authRules.flatMap fun r => r.matcher.paths

/-- Accepted resources that can be read: none, or a list of texts. -/
def AreTexts (resources : Option Json) : Prop :=
  resources = none ∨ resources = some .null ∨
    ∃ texts : List String, resources = some (.list (texts.map .text))

/-- The fault of accepted resources: a value that is no list at all, or the first item that is no
text. -/
inductive ResourceFault : Option Json → ConfigurationFault → Prop
  | notAList {found : Json} : found ≠ .null → (∀ items, found ≠ .list items) →
      ResourceFault (some found) (.resourcesNotAList found)
  | notAText {texts : List String} {item : Json} {after : List Json} : (∀ s, item ≠ .text s) →
      ResourceFault (some (.list (texts.map .text ++ item :: after))) (.resourceNotAText item)

/-- The fault of a policy that is reported. -/
inductive FirstFault (p : Policy) : ConfigurationFault → Prop
  | path {before after : List String} {path : String} {fault : PathFault} :
      p.rulePaths = before ++ path :: after → (∀ q ∈ before, Access.check q = .ok ()) →
      Access.check path = .error fault → FirstFault p (.rulePath path fault)
  | resources {fault : ConfigurationFault} : (∀ q ∈ p.rulePaths, Access.check q = .ok ()) →
      ResourceFault p.spec.acceptedResources fault → FirstFault p fault

variable {p : Policy}

/-! ## Paths -/

theorem checkRulePaths_eq (p : Policy) : p.checkRulePaths =
    (p.rulePaths.forM fun path => (Access.check path).mapError fun fault => (path, fault)).mapError
      fun fault => .configuration (.rulePath fault.1 fault.2) := by
  unfold checkRulePaths checkMatchers rulePaths authMatchers
  rw [List.flatMap_append, List.flatMap_map]

theorem checkRulePaths_eq_ok_iff :
    p.checkRulePaths = .ok () ↔ ∀ path ∈ p.rulePaths, Access.check path = .ok () := by
  rw [checkRulePaths_eq, mapError_eq_ok_iff, forM_eq_ok_iff]
  simp only [mapError_eq_ok_iff]

/-- The fault of the paths is the one of the first path that has one. -/
theorem checkRulePaths_eq_error_iff {e : CompileError} :
    p.checkRulePaths = .error e ↔ ∃ before path after fault, p.rulePaths = before ++ path :: after ∧
      (∀ q ∈ before, Access.check q = .ok ()) ∧ Access.check path = .error fault ∧
      e = .configuration (.rulePath path fault) := by
  rw [checkRulePaths_eq, mapError_eq_error_iff]
  simp only [forM_eq_error_iff, mapError_eq_ok_iff, mapError_eq_error_iff]
  constructor
  · rintro ⟨_, ⟨before, path, after, hsplit, hbefore, fault, hfault, rfl⟩, rfl⟩
    exact ⟨before, path, after, fault, hsplit, hbefore, hfault, rfl⟩
  · rintro ⟨before, path, after, fault, hsplit, hbefore, hfault, rfl⟩
    exact ⟨_, ⟨before, path, after, hsplit, hbefore, fault, hfault, rfl⟩, rfl⟩

/-! ## Accepted resources -/

def resourceText : Json → Except CompileError String
  | .text s => .ok s
  | other => .error (.configuration (.resourceNotAText other))

theorem resourceText_eq_ok_iff {item : Json} {s : String} :
    resourceText item = .ok s ↔ item = .text s := by
  cases item <;> simp [resourceText]

theorem resourceText_eq_error_iff {item : Json} {e : CompileError} :
    resourceText item = .error e ↔
      (∀ s, item ≠ .text s) ∧ e = .configuration (.resourceNotAText item) := by
  cases item <;> simp [resourceText, eq_comm]

theorem mapM_resourceText_eq_ok_iff {items : List Json} {texts : List String} :
    items.mapM resourceText = .ok texts ↔ items = texts.map .text := by
  rw [mapM_eq_ok_iff_forall₂]
  simp only [resourceText_eq_ok_iff]
  rw [← List.forall₂_map_right_iff (f := Json.text), List.forall₂_eq_eq_eq]

theorem resourceTexts_list (items : List Json) : resourceTexts (some (.list items)) =
    (items.mapM resourceText).map fun texts => if texts.isEmpty then none else some texts := by
  have hitems : resourceTexts (some (.list items)) = (items.mapM resourceText >>= fun texts =>
      pure (if texts.isEmpty then none else some texts)) := rfl
  rw [hitems]
  cases items.mapM resourceText <;> rfl

theorem exists_resourceTexts_iff {resources : Option Json} :
    (∃ texts, resourceTexts resources = .ok texts) ↔ AreTexts resources := by
  unfold AreTexts
  match resources with
  | none => simp [resourceTexts]
  | some .null => simp [resourceTexts]
  | some (.list items) =>
    simp only [resourceTexts_list, map_eq_ok_iff, mapM_resourceText_eq_ok_iff]
    constructor
    · rintro ⟨_, texts, rfl, -⟩
      exact Or.inr (Or.inr ⟨texts, rfl⟩)
    · rintro (h | h | ⟨texts, h⟩)
      · cases h
      · cases h
      · exact ⟨_, texts, by simpa using h, rfl⟩
  | some (.bool _) => simp [resourceTexts]
  | some (.number _) => simp [resourceTexts]
  | some (.text _) => simp [resourceTexts]
  | some (.object _) => simp [resourceTexts]

theorem resourceTexts_eq_error_iff {resources : Option Json} {e : CompileError} :
    resourceTexts resources = .error e ↔
      ∃ fault, ResourceFault resources fault ∧ e = .configuration fault := by
  have hother {found : Json} (hnull : found ≠ .null) (hlist : ∀ items, found ≠ .list items)
      (h : resourceTexts (some found) = .error (.configuration (.resourcesNotAList found))) :
      resourceTexts (some found) = .error e ↔
        ∃ fault, ResourceFault (some found) fault ∧ e = .configuration fault := by
    rw [h]
    constructor
    · intro he
      exact ⟨_, .notAList hnull hlist, (Except.error.inj he).symm⟩
    · rintro ⟨fault, hfault, rfl⟩
      cases hfault with
      | notAList _ _ => rfl
      | notAText _ => exact absurd rfl (hlist _)
  match resources with
  | none => exact iff_of_false nofun (by rintro ⟨_, ⟨⟩, -⟩)
  | some .null =>
    refine iff_of_false nofun ?_
    rintro ⟨_, h, -⟩
    cases h with
    | notAList hnull _ => exact hnull rfl
  | some (.list items) =>
    have hmap : ∀ x : Except CompileError (List String),
        (x.map fun texts => if texts.isEmpty then none else some texts) = .error e ↔
          x = .error e := by
      intro x
      cases x <;> simp [Except.map]
    rw [resourceTexts_list, hmap, mapM_eq_error_iff]
    simp only [mapM_resourceText_eq_ok_iff, resourceText_eq_error_iff]
    constructor
    · rintro ⟨_, item, after, rfl, ⟨texts, rfl⟩, hitem, rfl⟩
      exact ⟨_, .notAText hitem, rfl⟩
    · rintro ⟨fault, hfault, rfl⟩
      cases hfault with
      | notAList _ hlist => exact absurd rfl (hlist items)
      | notAText hitem => exact ⟨_, _, _, rfl, ⟨_, rfl⟩, hitem, rfl⟩
  | some (.bool _) => exact hother nofun nofun rfl
  | some (.number _) => exact hother nofun nofun rfl
  | some (.text _) => exact hother nofun nofun rfl
  | some (.object _) => exact hother nofun nofun rfl

/-! ## Policies -/

theorem checked_iff (p : Policy) : p.check = .ok () ↔
    (∀ path ∈ p.rulePaths, Access.check path = .ok ()) ∧ AreTexts p.spec.acceptedResources := by
  unfold check
  rw [bind_eq_ok_iff, ← checkRulePaths_eq_ok_iff, ← exists_resourceTexts_iff]
  constructor
  · rintro ⟨_, hpaths, h⟩
    obtain ⟨texts, htexts, -⟩ := bind_eq_ok_iff.1 h
    exact ⟨hpaths, texts, htexts⟩
  · rintro ⟨hpaths, texts, htexts⟩
    exact ⟨(), hpaths, bind_eq_ok_iff.2 ⟨texts, htexts, rfl⟩⟩

/-- Checking a policy reports its first fault. -/
theorem check_eq_error_iff {e : CompileError} :
    p.check = .error e ↔ ∃ fault, p.FirstFault fault ∧ e = .configuration fault := by
  have hresources : (resourceTexts p.spec.acceptedResources >>= fun _ => pure ()) = .error e ↔
      resourceTexts p.spec.acceptedResources = .error e := by
    cases resourceTexts p.spec.acceptedResources with
    | error e' => simp [bind, Except.bind]
    | ok texts => exact iff_of_false nofun nofun
  unfold check
  cases hpaths : p.checkRulePaths with
  | error e' =>
    obtain ⟨before, path, after, fault, hsplit, hbefore, hfault, rfl⟩ :=
      checkRulePaths_eq_error_iff.1 hpaths
    constructor
    · intro h
      exact ⟨_, .path hsplit hbefore hfault, (Except.error.inj h).symm⟩
    · rintro ⟨fault', hfirst, rfl⟩
      cases hfirst with
      | path hsplit' hbefore' hfault' =>
        exact hpaths.symm.trans (checkRulePaths_eq_error_iff.2
          ⟨_, _, _, _, hsplit', hbefore', hfault', rfl⟩)
      | resources hall _ =>
        rw [checkRulePaths_eq_ok_iff.2 hall] at hpaths
        cases hpaths
  | ok _ =>
    have hall := checkRulePaths_eq_ok_iff.1 hpaths
    refine hresources.trans (resourceTexts_eq_error_iff.trans ?_)
    constructor
    · rintro ⟨fault, hfault, rfl⟩
      exact ⟨fault, .resources hall hfault, rfl⟩
    · rintro ⟨fault, hfirst, rfl⟩
      cases hfirst with
      | path hsplit _ hfault =>
        rw [hall _ (hsplit ▸ List.mem_append_right _ List.mem_cons_self)] at hfault
        cases hfault
      | resources _ hfault => exact ⟨fault, hfault, rfl⟩

/-- **A policy is refused for one fault, whenever it is checked.**  With any endpoints and any
target it is joined exactly when it is accepted by itself; it is accepted when all of its rule paths
are and its resources are texts; and otherwise both report its first fault. -/
theorem compiled_agrees_with_check (p : Policy) (endpoints : Endpoints) (target : NetworkTarget) :
    ((∃ c, p.compiled endpoints target = .ok c) ↔ p.check = .ok ()) ∧
    (p.check = .ok () ↔ (∀ path ∈ p.rulePaths, Access.check path = .ok ()) ∧
      AreTexts p.spec.acceptedResources) ∧
    (∀ e, p.compiled endpoints target = .error e ↔ p.check = .error e) ∧
    ∀ e, p.check = .error e ↔ ∃ fault, p.FirstFault fault ∧ e = .configuration fault := by
  have hmap := compiled_map p endpoints target
  refine ⟨?_, p.checked_iff, fun e => ?_, fun e => check_eq_error_iff⟩
  · rw [← hmap]
    cases p.compiled endpoints target with
    | error e => exact iff_of_false nofun nofun
    | ok c => exact iff_of_true ⟨c, rfl⟩ rfl
  · rw [← hmap]
    cases p.compiled endpoints target with
    | error e' => simp [Except.map]
    | ok c => exact iff_of_false nofun nofun

end LoginGate.Policy
