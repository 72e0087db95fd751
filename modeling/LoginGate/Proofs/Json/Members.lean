import Mathlib.Data.List.Basic
import LoginGate.Proofs.Json.WellFormed

/-!
# Members put in, in the order of their keys

A member whose key is beyond all others goes to the end, so members in ascending order are kept as
they come.  Members with keys of their own are found again wherever they are put
(`lookup_ofPairs`); of several with one key the last is found (`lookup_ofPairs_eq_reverse`).

A path leads into a value by members of objects and items of lists.  A path is written as the list
of its keys and indices: `["spec", "items", 0, "name"]`.
-/

namespace LoginGate.KeyMap

variable {α : Type} {done rest map : List (String × α)} {key : String} {value : α}

theorem insert_concat (h : ∀ m ∈ done, m.1 < key) :
    insert key value done = done ++ [(key, value)] := by
  induction done with
  | nil => rfl
  | cons m done ih =>
    obtain ⟨k, v⟩ := m
    have hk : k < key := h (k, v) List.mem_cons_self
    have hne : key ≠ k := by
      rintro rfl
      exact String.lt_irrefl key hk
    rw [insert, if_neg (String.lt_asymm hk), if_neg hne, List.cons_append,
      ih fun m hm => h m (List.mem_cons_of_mem _ hm)]

theorem Ascending.insert_next (h : Ascending (done ++ (key, value) :: rest)) :
    insert key value done = done ++ [(key, value)] :=
  insert_concat fun m hm => (List.pairwise_append.1 h).2.2 m hm (key, value) List.mem_cons_self

/-! ## Members found by their keys -/

theorem lookup_eq_some_iff (h : (map.map Prod.fst).Nodup) :
    map.lookup key = some value ↔ (key, value) ∈ map := by
  induction map with
  | nil => simp
  | cons m map ih =>
    obtain ⟨k, v⟩ := m
    obtain ⟨hk, hmap⟩ := List.nodup_cons.1 h
    rw [List.lookup_cons, List.mem_cons, Prod.mk.injEq]
    cases hkey : key == k with
    | true =>
      obtain rfl := eq_of_beq hkey
      have hnot : (key, value) ∉ map := fun hm => hk (List.mem_map.2 ⟨_, hm, rfl⟩)
      simp [hnot, eq_comm]
    | false => simp [ih hmap, beq_eq_false_iff_ne.1 hkey]

theorem lookup_isSome_iff : (map.lookup key).isSome ↔ key ∈ map.map Prod.fst := by
  induction map with
  | nil => simp
  | cons m map ih =>
    rw [List.lookup_cons, List.map_cons, List.mem_cons, ← ih]
    cases hkey : key == m.1
    · simp [beq_eq_false_iff_ne.1 hkey]
    · simp [eq_of_beq hkey]

theorem lookup_filter {p : String → Bool} (h : p key = true) :
    (map.filter fun m => p m.1).lookup key = map.lookup key := by
  induction map with
  | nil => rfl
  | cons m map ih =>
    rw [List.filter_cons, List.lookup_cons]
    cases hkey : key == m.1 with
    | true => rw [← eq_of_beq hkey, if_pos h, List.lookup_cons, hkey]
    | false =>
      split
      · rw [List.lookup_cons, hkey, ih]
      · exact ih

theorem lookup_insert_self (key : String) (value : α) (map : KeyMap α) :
    (insert key value map).lookup key = some value := by
  induction map with
  | nil => simp [insert]
  | cons m map ih =>
    rw [insert]
    split
    · simp
    · split
      · simp
      · next hne => rw [List.lookup_cons, beq_eq_false_iff_ne.2 hne, ih]

theorem lookup_insert_of_ne {k : String} (h : k ≠ key) (value : α) (map : KeyMap α) :
    (insert key value map).lookup k = map.lookup k := by
  induction map with
  | nil => simp [insert, h]
  | cons m map ih =>
    rw [insert]
    split
    · rw [List.lookup_cons, beq_eq_false_iff_ne.2 h]
    · split
      · next heq => rw [List.lookup_cons, List.lookup_cons, ← heq, beq_eq_false_iff_ne.2 h]
      · rw [List.lookup_cons, List.lookup_cons, ih]

theorem mem_insert {m : String × α} (h : m ∈ insert key value map) :
    m = (key, value) ∨ m ∈ map := by
  induction map with
  | nil => exact Or.inl (List.mem_singleton.1 h)
  | cons n map ih =>
    rw [insert] at h
    split at h
    · exact List.mem_cons.1 h
    · split at h
      · exact (List.mem_cons.1 h).imp_right (List.mem_cons_of_mem _)
      · rcases List.mem_cons.1 h with rfl | h
        · exact Or.inr List.mem_cons_self
        · exact (ih h).imp_right (List.mem_cons_of_mem _)

theorem Ascending.insert (h : Ascending map) : Ascending (KeyMap.insert key value map) := by
  induction map with
  | nil => exact List.pairwise_singleton _ _
  | cons m map ih =>
    obtain ⟨hm, hmap⟩ := List.pairwise_cons.1 h
    rw [KeyMap.insert]
    split
    · next hlt =>
      refine List.pairwise_cons.2 ⟨fun n hn => ?_, h⟩
      rcases List.mem_cons.1 hn with rfl | hn
      · exact hlt
      · exact String.lt_trans hlt (hm n hn)
    · next hnot =>
      split
      · next heq => exact List.pairwise_cons.2 ⟨fun n hn => heq ▸ hm n hn, hmap⟩
      · next hne =>
        have hlt : m.1 < key := String.not_le.1 fun hle =>
          hne (String.le_antisymm hle (String.not_lt.1 hnot))
        refine List.pairwise_cons.2 ⟨fun n hn => ?_, ih hmap⟩
        rcases mem_insert hn with rfl | hn
        · exact hlt
        · exact hm n hn

theorem ascending_foldl (pairs : List (String × α)) (h : Ascending map) :
    Ascending (pairs.foldl (fun map pair => insert pair.1 pair.2 map) map) := by
  induction pairs generalizing map with
  | nil => exact h
  | cons pair pairs ih => exact ih h.insert

theorem ascending_ofPairs (pairs : List (String × α)) : Ascending (ofPairs pairs) :=
  ascending_foldl pairs List.Pairwise.nil

theorem Ascending.nodup (h : Ascending map) : (map.map Prod.fst).Nodup :=
  List.pairwise_map.2 (h.imp fun hlt => String.ne_of_lt hlt)

theorem lookup_foldl (pairs : List (String × α)) (h : (pairs.map Prod.fst).Nodup) :
    (pairs.foldl (fun map pair => insert pair.1 pair.2 map) map).lookup key =
      (pairs.lookup key).or (map.lookup key) := by
  induction pairs generalizing map with
  | nil => rfl
  | cons pair pairs ih =>
    obtain ⟨hpair, hpairs⟩ := List.nodup_cons.1 h
    rw [List.foldl_cons, ih hpairs, List.lookup_cons]
    cases hkey : key == pair.1 with
    | true =>
      obtain rfl := eq_of_beq hkey
      have hnone : pairs.lookup pair.1 = none :=
        Option.not_isSome_iff_eq_none.1 fun hs => hpair (lookup_isSome_iff.1 hs)
      rw [hnone, lookup_insert_self]
      rfl
    | false => rw [lookup_insert_of_ne (beq_eq_false_iff_ne.1 hkey)]

theorem lookup_ofPairs {pairs : List (String × α)} (h : (pairs.map Prod.fst).Nodup) :
    (ofPairs pairs).lookup key = pairs.lookup key :=
  (lookup_foldl pairs h).trans (Option.or_none ..)

theorem lookup_foldl_eq_reverse (pairs : List (String × α)) :
    (pairs.foldl (fun map pair => insert pair.1 pair.2 map) map).lookup key =
      (pairs.reverse.lookup key).or (map.lookup key) := by
  induction pairs generalizing map with
  | nil => rfl
  | cons pair pairs ih =>
    rw [List.foldl_cons, ih, List.reverse_cons, List.lookup_append, Option.or_assoc]
    by_cases hkey : key = pair.1
    · rw [hkey, lookup_insert_self, List.lookup_cons, beq_self_eq_true]
      rfl
    · rw [lookup_insert_of_ne hkey, List.lookup_cons, beq_eq_false_iff_ne.2 hkey]
      rfl

/-- Of several members with one key the last is found. -/
theorem lookup_ofPairs_eq_reverse (pairs : List (String × α)) :
    (ofPairs pairs).lookup key = pairs.reverse.lookup key :=
  (lookup_foldl_eq_reverse pairs).trans (Option.or_none ..)

end LoginGate.KeyMap

/-! ## Places in values -/

namespace LoginGate.Json

/-- One step into a value: to a member of an object, or to an item of a list. -/
inductive Step where
  | member (key : String)
  | item (index : Nat)
  deriving DecidableEq, Repr

instance : Coe String Step := ⟨.member⟩

instance (n : Nat) : OfNat Step n := ⟨.item n⟩

/-- The items of a list; none of anything else. -/
def items : Json → List Json
  | list items => items
  | _ => []

def text? : Json → Option String
  | text s => some s
  | _ => none

/-- The value after one step. -/
def Step.into? : Step → Json → Option Json
  | member key, v => v.member? key
  | item index, v => v.items[index]?

def at? (v : Json) (path : List Step) : Option Json := path.foldlM (fun v step => step.into? v) v

theorem at?_append (v : Json) (one other : List Step) :
    v.at? (one ++ other) = (v.at? one).bind fun w => w.at? other := by
  rw [at?, List.foldlM_append]
  rfl

end LoginGate.Json
