import LoginGate.Policy.Yaml
import LoginGate.Proofs.CompilationPass
import LoginGate.Proofs.Filter.Formats
import LoginGate.Proofs.Identity.DisplayedTargets

/-!
# Documents of policies that were read

Labels come out of a text in ascending order, and a target that is derived has a port of sixteen
bits.  So of every policy that is read and compiled both formats carry the document:

    ofYamlText source = .ok p → ((c.compileFilter p).run fetch).result = .ok f →
      Yaml.value? (f.write .yaml) = some f.toJson ∧
        Json.read? nestingLimit (f.write .json) = some f.toJson           (read_write_of_ofYamlText)
-/

namespace LoginGate.Policy

open LoginGate.Filter LoginGate.Identity LoginGate.KeyMap

/-! ## Readings of YAML -/

section

variable {α β : Type} {x : YamlRead α} {P Q : α → Prop}

/-- Has everything that the reading can give the property? -/
def Gives (x : YamlRead α) (P : α → Prop) : Prop :=
  ∀ followed a after, x followed = .ok (a, after) → P a

theorem gives_pure {a : α} (h : P a) : Gives (pure a) P := by
  intro followed b after hb
  obtain ⟨rfl, -⟩ := Prod.mk.inj (Except.ok.inj hb)
  exact h

theorem gives_throw (fault : ReadFault) : Gives (throw fault : YamlRead α) P := by
  intro followed a after h
  cases h

theorem gives_true (x : YamlRead α) : Gives x fun _ => True := fun _ _ _ _ => trivial

theorem Gives.bind (hx : Gives x Q) {f : α → YamlRead β} {P : β → Prop}
    (hf : ∀ a, Q a → Gives (f a) P) : Gives (x >>= f) P := by
  intro followed b after h
  obtain ⟨⟨a, between⟩, ha, hb⟩ := bind_eq_ok_iff.1 h
  exact hf a (hx _ _ _ ha) _ _ _ hb

theorem Gives.map (hx : Gives x P) {f : α → β} {Q : β → Prop} (hf : ∀ a, P a → Q (f a)) :
    Gives (f <$> x) Q := by
  rw [map_eq_pure_bind]
  exact hx.bind fun a ha => gives_pure (hf a ha)

theorem gives_foldlM {f : β → α → YamlRead β} {P : β → Prop} {l : List α}
    (hf : ∀ b a, P b → Gives (f b a) P) {b : β} (hb : P b) : Gives (l.foldlM f b) P := by
  induction l generalizing b with
  | nil => exact gives_pure hb
  | cons a l ih =>
    rw [List.foldlM_cons]
    exact (hf b a hb).bind fun next hnext => ih hnext

end

/-! ## Labels -/

section

variable {ν α σ : Type} (r : NodeReader YamlRead ν)

theorem gives_keyMap (read : ν → YamlRead α) (n : ν) : Gives (r.keyMap read n) Ascending := by
  refine (gives_true _).bind fun pairs _ => gives_foldlM (fun map pair hmap => ?_) List.Pairwise.nil
  refine (gives_true _).bind fun key _ => (gives_true _).bind fun value _ => ?_
  exact gives_pure hmap.insert

theorem gives_orDefault [Inhabited α] {read : ν → YamlRead α} {P : α → Prop} (hdefault : P default)
    {n : ν} (hread : Gives (read n) P) : Gives (r.orDefault read n) P := by
  have hoptional : Gives (r.optional read n) fun a => P (a.getD default) := by
    refine (gives_true _).bind fun isNull _ => ?_
    cases isNull with
    | true => exact gives_pure hdefault
    | false => exact hread.map fun a ha => ha
  exact hoptional.bind fun a ha => gives_pure ha

/-- What every field of a record keeps holds of the record that is read. -/
theorem gives_record {fields : Fields YamlRead ν σ} {empty : σ} {P : σ → Prop} (hempty : P empty)
    (hfields : ∀ f ∈ fields, ∀ n record, P record → Gives (f.2 n record) P) (n : ν) :
    Gives (r.record fields empty n) P := by
  have hentry (state : List String × σ) (pair : ν × ν) (hstate : P state.2) :
      Gives (r.entry fields state.1 state.2 pair) fun state => P state.2 := by
    refine (gives_true _).bind fun name _ => ?_
    cases hread : fields.lookup name with
    | none => exact (gives_true _).bind fun _ _ => gives_pure hstate
    | some read =>
      obtain ⟨before, behind, rfl, -⟩ := List.lookup_eq_some_iff.1 hread
      dsimp only
      split
      · exact gives_throw _
      · exact (hfields (name, read) (List.mem_append_right _ List.mem_cons_self) _ _ hstate).bind
          fun record hrecord => gives_pure hrecord
  refine (gives_true _).bind fun entries _ => ?_
  exact (gives_foldlM (P := fun state => P state.2) hentry hempty).bind fun state hstate =>
    gives_pure hstate

theorem gives_readSelector (n : ν) : Gives (readSelector r n) Ascending := by
  refine gives_record r List.Pairwise.nil (fun f hf n labels _ => ?_) n
  rw [List.mem_singleton.1 hf]
  exact gives_orDefault r List.Pairwise.nil (gives_keyMap r _ n)

theorem gives_readSpec (n : ν) : Gives (readSpec r n) fun s => s.matchLabels.Ascending := by
  have hempty : ({} : Spec).matchLabels.Ascending := List.Pairwise.nil
  refine gives_record (P := fun s : Spec => s.matchLabels.Ascending) r hempty
    (fun f hf n s hs => ?_) n
  simp only [specFields, List.mem_cons, List.not_mem_nil, or_false] at hf
  rcases hf with rfl | rfl | rfl | rfl | rfl | rfl
  -- the labels are set by the selector, and no other field touches them
  case inr.inr.inr.inr.inl =>
    exact (gives_orDefault r List.Pairwise.nil (gives_readSelector r n)).bind fun labels hlabels =>
      gives_pure hlabels
  all_goals exact (gives_true _).bind fun _ _ => gives_pure hs

theorem gives_read (n : ν) : Gives (read r n) fun p => p.spec.matchLabels.Ascending := by
  have hempty : ({} : Policy).spec.matchLabels.Ascending := List.Pairwise.nil
  refine gives_record (P := fun p : Policy => p.spec.matchLabels.Ascending) r hempty
    (fun f hf n p hp => ?_) n
  simp only [policyFields, List.mem_cons, List.not_mem_nil, or_false] at hf
  rcases hf with rfl | rfl | rfl | rfl
  -- the labels are part of the last field
  case inr.inr.inr =>
    exact (gives_orDefault r List.Pairwise.nil (gives_readSpec r n)).bind fun s hs => gives_pure hs
  all_goals exact (gives_true _).bind fun _ _ => gives_pure hp

end

/-- The labels of a policy that comes out of a text ascend. -/
theorem ascending_of_ofYamlText {source : String} {p : Policy} (h : ofYamlText source = .ok p) :
    p.spec.matchLabels.Ascending := by
  have hdocument := eq_ok_of_mapError h
  generalize Yaml.Document.ofText source.toList = d at hdocument
  have hsound (read : Policy) (hread : read.spec.matchLabels.Ascending)
      (h : (if d.sound = true then pure read else throw .invalid : Except ReadFault Policy) = .ok p) :
      p.spec.matchLabels.Ascending := by
    split at h
    · exact Except.ok.inj h ▸ hread
    · cases h
  unfold ofDocument at hdocument
  cases hroot : d.root with
  | none =>
    rw [hroot] at hdocument
    exact hsound {} List.Pairwise.nil hdocument
  | some n =>
    rw [hroot] at hdocument
    obtain ⟨read, hread, hdocument⟩ := bind_eq_ok_iff.1 hdocument
    obtain ⟨⟨read', followed⟩, hread', rfl⟩ := map_eq_ok_iff.1 hread
    exact hsound _ (gives_read _ _ _ _ _ hread') hdocument

/-! ## Documents -/

variable {c : Compiler} {fetch : Fetch} {p : Policy}

/-- The labels of a policy that is joined with its provider are those that were read, and its target
has a port of sixteen bits. -/
theorem labels_and_port_of_compiled {endpoints : Endpoints} {target : NetworkTarget} {uri : String}
    {joined : CompiledPolicy} (htarget : NetworkTarget.derive endpoints.token uri = .ok target)
    (hjoined : p.compiled endpoints target = .ok joined) :
    joined.workloadLabels = p.spec.matchLabels ∧ joined.target.port < 65536 := by
  obtain ⟨_, hs⟩ := NetworkTarget.exists_of_derive htarget
  obtain ⟨_, _, _, -, hport, rfl⟩ := NetworkTarget.exists_url hs
  obtain ⟨_, -, hjoined⟩ := bind_eq_ok_iff.1 hjoined
  obtain ⟨_, -, hjoined⟩ := bind_eq_ok_iff.1 hjoined
  obtain rfl := Except.ok.inj hjoined
  exact ⟨rfl, Nat.lt_succ_of_le hport⟩

/-- Both formats carry the document of every policy that is read and compiled. -/
theorem read_write_of_ofYamlText {source : String} {f : EnvoyFilter}
    (hp : ofYamlText source = .ok p) (h : ((c.compileFilter p).run fetch).result = .ok f) :
    Yaml.value? (f.write .yaml) = some f.toJson ∧
      Json.read? nestingLimit (f.write .json) = some f.toJson := by
  obtain ⟨endpoints, target, joined, -, htarget, hjoined, hf⟩ := Compiler.exists_stages h
  obtain ⟨hlabels, hport⟩ := labels_and_port_of_compiled htarget hjoined
  exact EnvoyFilter.read_write_of_generate (hlabels ▸ ascending_of_ofYamlText hp) hport hf

end LoginGate.Policy
