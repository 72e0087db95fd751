import LoginGate.Policy.Read
import LoginGate.Proofs.Policy.Fields

/-!
# The sections of a policy

A policy, its metadata, what it asks for, its matchers and rules, its login and its selector are all
records (`Section`), and the fields of each are independent (`Section.independent`).  Some fields
hold other sections, either one or a list of them (`Section.Holds`).
-/

namespace LoginGate.Policy

/-- What in a policy document is a record. -/
inductive Section where
  | policy
  | metadata
  | spec
  | matcher
  | authRule
  | autoLogin
  | selector
  deriving DecidableEq, Repr

namespace Section

/-- What is read from a section. -/
def Record : Section → Type
  | policy => Policy
  | metadata => Metadata
  | spec => Spec
  | matcher => Access.Matcher
  | authRule => AuthRule
  | autoLogin => AutoLogin
  | selector => KeyMap String

def fields : (s : Section) → List (JsonField s.Record)
  | policy => policyFields ofJson
  | metadata => metadataFields ofJson
  | spec => specFields ofJson
  | matcher => matcherFields
  | authRule => authRuleFields
  | autoLogin => autoLoginFields ofJson
  | selector => selectorFields ofJson

def empty : (s : Section) → s.Record
  | policy => ({} : Policy)
  | metadata => ({} : Metadata)
  | spec => ({} : Spec)
  | matcher => ⟨[], []⟩
  | authRule => ⟨⟨[], []⟩, none⟩
  | autoLogin => ({} : AutoLogin)
  | selector => []

def read (s : Section) : Json → Except ReadFault s.Record := ofJson.record s.fields s.empty

def names (s : Section) : List String := s.fields.map Prod.fst

end Section

/-! ## Fields that are set one by one -/

section

variable {σ α β : Type} {f g : JsonField σ}
  {readF : Json → Except ReadFault α} {putF : α → σ → σ}
  {readG : Json → Except ReadFault β} {putG : β → σ → σ}

/-- Two fields do not depend on each other if it makes no difference which of them is set first. -/
theorem take?_comm (hf : f.2 = fun n record => readF n >>= fun a => pure (putF a record))
    (hg : g.2 = fun n record => readG n >>= fun b => pure (putG b record))
    (hput : ∀ a b record, putG b (putF a record) = putF a (putG b record)) (x y : Json)
    (record : Option σ) :
    take? (take? record (f, x)) (g, y) = take? (take? record (g, y)) (f, x) := by
  cases record with
  | none => rfl
  | some r =>
    simp only [take?, hf, hg]
    cases readF x with
    | error fault => cases readG y <;> rfl
    | ok a =>
      cases readG y with
      | error fault => rfl
      | ok b => exact congrArg some (hput a b r)

end

/-- The fields of a rule one by one; the first two are set in its matcher. -/
theorem authRuleFields_eq : authRuleFields =
    [("paths", fun n rule => do
        let paths ← ofJson.orDefault ofJson.texts n
        return { rule with matcher := { rule.matcher with paths } }),
     ("methods", fun n rule => do
        let methods ← ofJson.orDefault ofJson.texts n
        return { rule with matcher := { rule.matcher with methods } }),
     ("when", fun n rule => do
        return { rule with condition := ← ofJson.optional ofJson.value n })] := by
  unfold authRuleFields matcherFields
  simp only [List.map_cons, List.map_nil, List.cons_append, List.nil_append, bind_assoc, pure_bind]

namespace Section

/-- The fields of every section are set one by one, each for itself, and null gives what is there
without them. -/
theorem independent (s : Section) : Independent s.fields s.empty where
  nodup := by cases s <;> decide
  commute := by
    cases s
    case' authRule =>
      change authRuleFields.Pairwise _
      rw [authRuleFields_eq]
    all_goals
      repeat' first
        | exact List.Pairwise.nil
        | exact List.forall_mem_nil _
        | refine List.Pairwise.cons ?_ ?_
        | refine List.forall_mem_cons.2 ⟨take?_comm rfl rfl fun _ _ _ => rfl, ?_⟩
  null := by
    cases s <;> repeat' first
      | exact List.forall_mem_nil _
      | refine List.forall_mem_cons.2 ⟨rfl, ?_⟩

theorem read_toOption (s : Section) (n : Json) :
    (s.read n).toOption =
      (fieldValues? s.names n).bind fun values => takeAll? s.fields values s.empty :=
  record_toOption s.independent n

end Section

/-! ## Sections in fields -/

/-- What a field of a section may hold: a section, or a list of them. -/
inductive Holding where
  | one (s : Section)
  | many (s : Section)
  deriving DecidableEq, Repr

/-- What is read from what a field holds. -/
def Holding.Value : Holding → Type
  | one s => s.Record
  | many s => List s.Record

def Holding.read : (h : Holding) → Json → Except ReadFault h.Value
  | one s => s.read
  | many s => readRules ofJson s.read

/-- The fields that hold sections. -/
inductive Section.Holds : Section → String → Holding → Prop
  | metadata : Holds policy "metadata" (.one metadata)
  | spec : Holds policy "spec" (.one spec)
  | ignoreRules : Holds spec "ignoreAuthRules" (.many matcher)
  | authRules : Holds spec "authRules" (.many authRule)
  | autoLogin : Holds spec "autoLogin" (.one autoLogin)
  | selector : Holds spec "selector" (.one selector)

/-- Are values that hold something read to the same? -/
structure Holding.Same (h : Holding) (x y : Json) : Prop where
  left : x ≠ .null
  right : y ≠ .null
  read : (h.read x).toOption = (h.read y).toOption

section

variable {α : Type} {read : Json → Except ReadFault α} {x : Json}

theorem optional_of_ne_null (h : x ≠ .null) : ofJson.optional read x = some <$> read x := by
  cases x
  case null => exact absurd rfl h
  all_goals rfl

theorem orDefault_of_ne_null [Inhabited α] (h : x ≠ .null) :
    ofJson.orDefault read x = read x := by
  rw [NodeReader.orDefault, optional_of_ne_null h]
  cases read x <;> rfl

end

theorem readRules_eq {α : Type} (read : Json → Except ReadFault α) (n : Json) :
    readRules ofJson read n = ofJson.orDefault ofJson.values n >>= fun entries =>
      ((entries.filter Json.isObject).mapM read).mapError fun _ => ReadFault.invalid := by
  refine bind_congr fun entries => ?_
  cases (entries.filter Json.isObject).mapM read <;> rfl

/-- Of a list, the entries that are objects are read. -/
theorem readRules_list {α : Type} (read : Json → Except ReadFault α) (items : List Json) :
    (readRules ofJson read (.list items)).toOption =
      (items.filter Json.isObject).mapM fun entry => (read entry).toOption := by
  have hentries : ofJson.orDefault ofJson.values (.list items) = .ok items := by
    rw [orDefault_of_ne_null (by simp)]
    exact List.mapM_pure.trans (congrArg Except.ok (List.map_id' items))
  rw [readRules_eq, hentries, ← toOption_mapM]
  change (((items.filter Json.isObject).mapM read).mapError _).toOption = _
  cases (items.filter Json.isObject).mapM read <;> rfl

/-- A field that holds sections reads them, and sets what was read. -/
theorem Section.Holds.exists_put {s : Section} {k : String} {h : Holding} (hh : s.Holds k h) :
    ∃ (read : Json → s.Record → Except ReadFault s.Record) (put : h.Value → s.Record → s.Record),
      (k, read) ∈ s.fields ∧
      ∀ x record, x ≠ .null → read x record = (put · record) <$> h.read x := by
  cases hh with
  | metadata =>
    refine ⟨_, fun m (p : Policy) => { p with metadata := m }, .tail _ (.tail _ (.head _)),
      fun x p hx => ?_⟩
    dsimp only
    rw [orDefault_of_ne_null hx, bind_pure_comp]
    rfl
  | spec =>
    refine ⟨_, fun spec (p : Policy) => { p with spec }, .tail _ (.tail _ (.tail _ (.head _))),
      fun x p hx => ?_⟩
    dsimp only
    rw [orDefault_of_ne_null hx, bind_pure_comp]
    rfl
  | ignoreRules =>
    exact ⟨_, fun rules (s : Spec) => { s with ignoreRules := rules }, .tail _ (.head _),
      fun x s _ => bind_pure_comp _ _⟩
  | authRules =>
    exact ⟨_, fun rules (s : Spec) => { s with authRules := rules }, .tail _ (.tail _ (.head _)),
      fun x s _ => bind_pure_comp _ _⟩
  | autoLogin =>
    refine ⟨_, fun login (s : Spec) => { s with autoLogin := some login },
      .tail _ (.tail _ (.tail _ (.head _))), fun x s hx => ?_⟩
    dsimp only
    rw [optional_of_ne_null hx, bind_pure_comp, Functor.map_map]
    rfl
  | selector =>
    refine ⟨_, fun labels (s : Spec) => { s with matchLabels := labels },
      .tail _ (.tail _ (.tail _ (.tail _ (.head _)))), fun x s hx => ?_⟩
    dsimp only
    rw [orDefault_of_ne_null hx, bind_pure_comp]
    rfl

/-- A field that holds sections takes no more from its value than these. -/
theorem Section.Holds.take?_eq {s : Section} {k : String} {h : Holding} (hh : s.Holds k h)
    {f : JsonField s.Record} (hf : f ∈ s.fields) (hname : f.1 = k) {x y : Json}
    (hsame : h.Same x y) (record : Option s.Record) :
    take? record (f, x) = take? record (f, y) := by
  obtain ⟨read, put, hmem, hread⟩ := hh.exists_put
  obtain ⟨name, readF⟩ := f
  obtain rfl : name = k := hname
  have hreader : some readF = some read :=
    ((KeyMap.lookup_eq_some_iff s.independent.nodup).2 hf).symm.trans
      ((KeyMap.lookup_eq_some_iff s.independent.nodup).2 hmem)
  obtain rfl := Option.some.inj hreader
  cases record with
  | none => rfl
  | some r =>
    have htoOption {z : Except ReadFault h.Value} :
        ((put · r) <$> z).toOption = z.toOption.map (put · r) := by
      cases z <;> rfl
    change (readF x r).toOption = (readF y r).toOption
    rw [hread x r hsame.left, hread y r hsame.right, htoOption, htoOption, hsame.read]

end LoginGate.Policy
