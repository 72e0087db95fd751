import LoginGate.Proofs.Checks
import LoginGate.Proofs.Settings.Keys

/-!
# Layers of settings
-/

namespace LoginGate.Settings

/-! ## Members -/

theorem lookup_cons_eq (key k : String) (v : Tree) (members : List (String × Tree)) :
    List.lookup k ((key, v) :: members) = if k = key then some v else List.lookup k members := by
  by_cases h : k = key
  · simp [h]
  · rw [List.lookup_cons, beq_false_of_ne h, if_neg h]

theorem lookup_bind (key k : String) (v : Tree) (members : List (String × Tree)) :
    List.lookup k (bind key v members) = if k = key then some v else List.lookup k members := by
  induction members with
  | nil => rw [bind, lookup_cons_eq]
  | cons m members ih =>
    obtain ⟨a, w⟩ := m
    rw [bind]
    by_cases h : a = key
    · subst h
      rw [if_pos rfl, lookup_cons_eq, lookup_cons_eq]
      split <;> rfl
    · rw [if_neg h, lookup_cons_eq, lookup_cons_eq, ih]
      by_cases hk : k = key
      · subst hk
        rw [if_neg fun h' => h h'.symm, if_pos rfl, if_pos rfl]
      · rw [if_neg hk, if_neg hk]

theorem lookup_bind_self (key : String) (v : Tree) (members : List (String × Tree)) :
    List.lookup key (bind key v members) = some v := by
  rw [lookup_bind, if_pos rfl]

theorem lookup_bind_of_ne {key k : String} (h : k ≠ key) (v : Tree)
    (members : List (String × Tree)) :
    List.lookup k (bind key v members) = List.lookup k members := by
  rw [lookup_bind, if_neg h]

/-! ## Sections -/

/-- What one entry makes of a section, given the steps behind the name of the section. -/
def stepIn (rest : List Step) (value : Tree) (x : Option Tree) : Option Tree :=
  some ((x.getD .absent).change value.merge rest)

/-- What an entry makes of the section with a name. -/
def entryIn (name : String) (x : Option Tree) (entry : String × Tree) : Option Tree :=
  match pathOf entry.1 with
  | .key a :: rest => if name = a then stepIn rest entry.2 x else x
  | _ => x

theorem pathOf_eq (s : String) : ∃ name rest, pathOf s = .key name :: rest := by
  rw [pathOf]
  cases hn : name? s.toList with
  | none => exact ⟨s, [], rfl⟩
  | some first =>
    obtain ⟨step, rest⟩ := first
    have hstep : ∃ name, step = .key name := by
      rw [name?] at hn
      split at hn
      · cases hn
      · exact ⟨_, (Prod.mk.inj (Option.some.inj hn)).1.symm⟩
    obtain ⟨name, rfl⟩ := hstep
    cases hs : steps? (rest.length + 1) rest with
    | none => exact ⟨s, [], by simp [hs]⟩
    | some steps => exact ⟨name, steps, by simp [hs]⟩

theorem set_table (members : List (String × Tree)) (entry : String × Tree) :
    ∃ members', (Tree.table members).set (pathOf entry.1) entry.2 = .table members' ∧
      ∀ name, List.lookup name members' = entryIn name (List.lookup name members) entry := by
  obtain ⟨a, rest, hp⟩ := pathOf_eq entry.1
  refine ⟨_, by rw [hp, Tree.set, Tree.change], fun name => ?_⟩
  have hentry : entryIn name (List.lookup name members) entry =
      if name = a then stepIn rest entry.2 (List.lookup name members)
      else List.lookup name members := by
    rw [entryIn, hp]
  rw [hentry, lookup_bind]
  by_cases h : name = a
  · subst h
    rfl
  · rw [if_neg h, if_neg h]
    rfl

/-- Sections are set one by one. -/
theorem setAll_table (members : List (String × Tree)) (entries : List (String × Tree)) :
    ∃ members', (Tree.table members).setAll entries = .table members' ∧ ∀ name,
      List.lookup name members' = entries.foldl (entryIn name) (List.lookup name members) := by
  induction entries generalizing members with
  | nil => exact ⟨members, rfl, fun _ => rfl⟩
  | cons entry entries ih =>
    obtain ⟨one, hone, hlookup⟩ := set_table members entry
    obtain ⟨all, hall, h⟩ := ih one
    refine ⟨all, ?_, fun name => ?_⟩
    · rw [← hall, Tree.setAll, List.foldl_cons, hone]
      rfl
    · rw [h name, hlookup name, List.foldl_cons]

/-! ## Single values -/

/-- Is this not a table? -/
def Tree.IsSingle (t : Tree) : Prop := ∀ members, t ≠ .table members

theorem Tree.IsSingle.merge {t : Tree} (h : t.IsSingle) (old : Tree) : t.merge old = t := by
  cases t with
  | table members => exact absurd rfl (h members)
  | _ => rw [Tree.merge]; exact h

theorem isSingle_ofVariable (value : String) : (Tree.ofVariable value).IsSingle := by
  intro members h
  unfold Tree.ofVariable at h
  grind

/-- The members of a section; none of anything but a table. -/
def membersIn (x : Option Tree) : List (String × Tree) := (x.getD .absent).members

/-- The items of a section; none of anything but a list. -/
def itemsIn (x : Option Tree) : List Tree := (x.getD .absent).items

@[simp] theorem membersIn_table (members : List (String × Tree)) :
    membersIn (some (.table members)) = members := rfl

/-- The least number of items that an index is inside of. -/
def reachedLength (position : Int) : Nat :=
  if 0 ≤ position then position.toNat + 1 else position.natAbs

theorem length_reach (position : Int) (items : List Tree) :
    (Tree.reach position items).1.length = max items.length (reachedLength position) := by
  unfold Tree.reach reachedLength
  split
  · simp only [List.length_append, List.length_replicate]
    omega
  · split
    · simp only
      omega
    · simp only [List.length_append, List.length_replicate]
      omega

/-- What an entry with a single value can do to a section: nothing, take its place, bind one of its
keys, or set one of its items. -/
theorem entryIn_cases (name : String) {entry : String × Tree} (h : entry.2.IsSingle) :
    (∀ x, entryIn name x entry = x) ∨
    (∀ x, entryIn name x entry = some entry.2) ∨
    (∃ (key : String) (f : Tree → Tree), ∀ x, entryIn name x entry =
      some (.table (bind key (f (lookup key (membersIn x))) (membersIn x)))) ∨
    ∃ (n : Nat) (f : List Tree → List Tree), (∀ x, entryIn name x entry = some (.list (f (itemsIn x)))) ∧
      ∀ items, (f items).length = max items.length n := by
  obtain ⟨a, rest, hp⟩ := pathOf_eq entry.1
  by_cases ha : name = a
  · subst ha
    have hstep (x : Option Tree) : entryIn name x entry = stepIn rest entry.2 x := by
      rw [entryIn, hp]
      exact if_pos rfl
    simp only [hstep]
    cases rest with
    | nil =>
      refine Or.inr (Or.inl fun x => ?_)
      rw [stepIn, Tree.change, h.merge]
    | cons place rest =>
      cases place with
      | key key =>
        exact Or.inr (Or.inr (Or.inl ⟨key, fun t => t.change entry.2.merge rest, fun x => rfl⟩))
      | index position =>
        refine Or.inr (Or.inr (Or.inr ⟨reachedLength position, fun items =>
          (Tree.reach position items).1.set (Tree.reach position items).2
            (((Tree.reach position items).1.getD (Tree.reach position items).2 .absent).change
              entry.2.merge rest), fun x => rfl, fun items => ?_⟩))
        rw [List.length_set, length_reach]
  · refine Or.inl fun x => ?_
    rw [entryIn, hp]
    exact if_neg ha

/-- What is true of two sections stays true, if it does so at every entry. -/
theorem foldl_entryIn {R : Option Tree → Option Tree → Prop} {name : String}
    {entries : List (String × Tree)} {x x' : Option Tree}
    (hstep : ∀ entry ∈ entries, ∀ {x x'}, R x x' → R (entryIn name x entry) (entryIn name x' entry))
    (h : R x x') : R (entries.foldl (entryIn name) x) (entries.foldl (entryIn name) x') := by
  induction entries generalizing x x' with
  | nil => exact h
  | cons entry entries ih =>
    exact ih (fun e he => hstep e (List.mem_cons_of_mem _ he)) (hstep entry List.mem_cons_self h)

/-! ## One key more -/

/-- The second section says what the first one says, apart from one key.  Where the first one is no
table, the second one may be a table with that key alone. -/
inductive AgreeBut (key : String) : Option Tree → Option Tree → Prop
  | same (x : Option Tree) : AgreeBut key x x
  | table {x : Option Tree} {members : List (String × Tree)}
      (h : ∀ k ≠ key, List.lookup k members = List.lookup k (membersIn x)) :
      AgreeBut key x (some (.table members))
  | lists (items items' : List Tree) : AgreeBut key (some (.list items)) (some (.list items'))

theorem AgreeBut.entry {key name : String} {entry : String × Tree} (h : entry.2.IsSingle)
    {x x' : Option Tree} (hx : AgreeBut key x x') :
    AgreeBut key (entryIn name x entry) (entryIn name x' entry) := by
  obtain hkeep | hplace | ⟨k, f, hbind⟩ | ⟨n, f, hitem, -⟩ := entryIn_cases name h
  · rwa [hkeep, hkeep]
  · rw [hplace, hplace]
    exact .same _
  · rw [hbind, hbind]
    cases hx with
    | same => exact .same _
    | lists items items' => exact .same _
    | table hm =>
      rename_i members
      refine .table fun j hj => ?_
      rw [membersIn_table, membersIn_table, lookup_bind, lookup_bind, hm j hj]
      by_cases hjk : j = k
      · subst hjk
        rw [if_pos rfl, if_pos rfl, lookup, lookup, hm j hj]
      · rw [if_neg hjk, if_neg hjk]
  · rw [hitem, hitem]
    exact .lists _ _

/-- What a section gives for a setting. -/
def givenIn? (k : Key) (x : Option Tree) : Option Tree := x.bind (Tree.part? k.name k.position)

theorem givenIn?_of_table {k : Key} (members : List (String × Tree)) :
    givenIn? k (some (.table members)) = List.lookup k.name members := rfl

theorem AgreeBut.givenIn?_eq {key : String} {x x' : Option Tree} (h : AgreeBut key x x')
    (hlist : ∀ items, x ≠ some (.list items)) {k : Key} (hk : k.name ≠ key) :
    givenIn? k x' = givenIn? k x := by
  cases h with
  | same => rfl
  | lists items items' => exact absurd rfl (hlist items)
  | table hm =>
    rw [givenIn?_of_table, hm _ hk]
    match x with
    | some (.list items) => exact absurd rfl (hlist items)
    | some (.table members) => rfl
    | none | some .absent | some (.flag _) | some (.whole _) | some (.real _) | some (.text _) =>
      rfl

/-! ## One key -/

/-- The sections give the same for a key. -/
inductive SameAt (key : String) : Option Tree → Option Tree → Prop
  | same (x : Option Tree) : SameAt key x x
  | tables {members members' : List (String × Tree)}
      (h : List.lookup key members = List.lookup key members') :
      SameAt key (some (.table members)) (some (.table members'))

theorem SameAt.entry {key name : String} {entry : String × Tree} (h : entry.2.IsSingle)
    {x x' : Option Tree} (hx : SameAt key x x') :
    SameAt key (entryIn name x entry) (entryIn name x' entry) := by
  obtain hkeep | hplace | ⟨k, f, hbind⟩ | ⟨n, f, hitem, -⟩ := entryIn_cases name h
  · rwa [hkeep, hkeep]
  · rw [hplace, hplace]
    exact .same _
  · rw [hbind, hbind]
    cases hx with
    | same => exact .same _
    | tables hm =>
      refine .tables ?_
      rw [membersIn_table, membersIn_table, lookup_bind, lookup_bind, hm]
      by_cases hk : key = k
      · subst hk
        rw [if_pos rfl, if_pos rfl, lookup, lookup, hm]
      · rw [if_neg hk, if_neg hk]
  · rw [hitem, hitem]
    cases hx with
    | same => exact .same _
    | tables hm => exact .same _

theorem SameAt.givenIn?_eq {k : Key} {x x' : Option Tree} (h : SameAt k.name x x') :
    givenIn? k x = givenIn? k x' := by
  cases h with
  | same => rfl
  | tables hm => exact hm

/-! ## No key from nowhere -/

/-- Of the section that started as `base`, and the one that started from nothing: what the former
gives for a setting comes from the latter or from `base`. -/
inductive ComesFrom (k : Key) (base : Option Tree) : Option Tree → Option Tree → Prop
  | base : ComesFrom k base base none
  | same (x : Option Tree) : ComesFrom k base x x
  | tables {members added : List (String × Tree)}
      (h : List.lookup k.name added = none → givenIn? k base = none →
        List.lookup k.name members = none) :
      ComesFrom k base (some (.table members)) (some (.table added))
  | lists {items added : List Tree}
      (h : items.length ≤ max (itemsIn base).length added.length) :
      ComesFrom k base (some (.list items)) (some (.list added))

theorem lookup_membersIn {k : Key} {x : Option Tree} (h : givenIn? k x = none) :
    List.lookup k.name (membersIn x) = none := by
  match x with
  | some (.table members) => exact h
  | none | some (.list _) | some .absent | some (.flag _) | some (.whole _) | some (.real _)
  | some (.text _) => rfl

theorem ComesFrom.entry {k : Key} {name : String} {entry : String × Tree} (h : entry.2.IsSingle)
    {base x x' : Option Tree} (hx : ComesFrom k base x x') :
    ComesFrom k base (entryIn name x entry) (entryIn name x' entry) := by
  obtain hkeep | hplace | ⟨key, f, hbind⟩ | ⟨n, f, hitem, hlength⟩ := entryIn_cases name h
  · rwa [hkeep, hkeep]
  · rw [hplace, hplace]
    exact .same _
  · rw [hbind, hbind]
    cases hx with
    | same => exact .same _
    | lists => exact .same _
    | base =>
      refine .tables fun hadded hbase => ?_
      rw [lookup_bind] at hadded ⊢
      split at hadded
      · cases hadded
      · rw [if_neg ‹_›]
        exact lookup_membersIn hbase
    | tables hm =>
      refine .tables fun hadded hbase => ?_
      rw [lookup_bind] at hadded ⊢
      split at hadded
      · cases hadded
      · rw [if_neg ‹_›]
        exact hm hadded hbase
  · rw [hitem, hitem]
    cases hx with
    | same => exact .same _
    | tables => exact .same _
    | base =>
      refine .lists ?_
      rw [hlength, hlength]
      omega
    | lists hl =>
      rename_i items added
      refine .lists ?_
      have hitems : itemsIn (some (.list items)) = items := rfl
      have hadded : itemsIn (some (.list added)) = added := rfl
      rw [hlength, hlength, hitems, hadded]
      omega

theorem ComesFrom.givenIn?_eq {k : Key} {base x x' : Option Tree} (h : ComesFrom k base x x')
    (hbase : givenIn? k base = none) (hx' : givenIn? k x' = none) : givenIn? k x = none := by
  cases h with
  | base => exact hbase
  | same => exact hx'
  | tables hm => exact hm hx' hbase
  | lists hl =>
    rename_i items added
    have hadded : added.length ≤ k.position := List.getElem?_eq_none_iff.1 hx'
    have hitems : (itemsIn base).length ≤ k.position := by
      match base with
      | some (.list items) => exact List.getElem?_eq_none_iff.1 hbase
      | some (.table _) | none | some .absent | some (.flag _) | some (.whole _) | some (.real _)
      | some (.text _) => exact Nat.zero_le _
    exact List.getElem?_eq_none_iff.2 (by omega)

end LoginGate.Settings
