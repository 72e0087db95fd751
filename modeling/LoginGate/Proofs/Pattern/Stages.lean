import LoginGate.Pattern.Search

/-!
# What may be left to do

While a pattern is matched, what a thread has left to do is one of few things: `todos name a rest`
lists all that may be left before `rest` is.  A thread in the list stays there or gets to `rest`
with each step, and the list is no longer than `stages` says:

    t.todo ∈ todos name a rest → u ∈ t.branches name place →
      u.todo = rest ∨ u.todo ∈ todos name a rest                          (todo_mem_of_mem_branches)
    (todos name a rest).length ≤ a.stages                                       (length_todos_le)
-/

namespace LoginGate.Pattern

/-- What may be left to do while copies of a pattern are matched, given what may be left in one
copy.  `here count` is the task to match so many copies. -/
def todosOfCopies (one : List Task → List (List Task)) (here : Nat → Task) (rest : List Task) :
    Nat → List (List Task)
  | 0 => [here 0 :: rest]
  | count + 1 =>
    (here (count + 1) :: rest) :: (one (here count :: rest) ++ todosOfCopies one here rest count)

/-- What may be left to do before only `rest` is. -/
def todos (name : String) : Pattern → List Task → List (List Task)
  | empty, rest => [.match_ empty :: rest]
  | one set, rest => [.match_ (one set) :: rest]
  | look boundary, rest => [.match_ (look boundary) :: rest]
  | seq a b, rest =>
    (.match_ (seq a b) :: rest) :: (todos name a (.match_ b :: rest) ++ todos name b rest)
  | alt a b, rest => (.match_ (alt a b) :: rest) :: (todos name a rest ++ todos name b rest)
  | group other a, rest =>
    (.match_ (group other a) :: rest) ::
      if other = some name then (.close :: rest) :: todos name a (.close :: rest)
      else todos name a rest
  | loop greedy a, rest =>
    (.match_ (loop greedy a) :: rest) :: todos name a (.match_ (loop greedy a) :: rest)
  | copies count a, rest => todosOfCopies (todos name a) (fun n => .match_ (copies n a)) rest count
  | atMost count greedy a, rest =>
    todosOfCopies (todos name a) (fun n => .match_ (atMost n greedy a)) rest count

variable {name : String}

theorem mem_todosOfCopies (one : List Task → List (List Task)) (here : Nat → Task)
    (rest : List Task) (count : Nat) : here count :: rest ∈ todosOfCopies one here rest count := by
  cases count with
  | zero => exact List.mem_cons_self
  | succ count => exact List.mem_cons_self

theorem mem_todos (a : Pattern) (rest : List Task) : .match_ a :: rest ∈ todos name a rest := by
  cases a with
  | copies count a => exact mem_todosOfCopies _ _ rest count
  | atMost count greedy a =>
    exact mem_todosOfCopies _ (fun n => .match_ (atMost n greedy a)) rest count
  | _ => exact List.mem_cons_self

/-! ## Their number -/

theorem length_todosOfCopies_le {one : List Task → List (List Task)} {bound : Nat}
    (h : ∀ rest, (one rest).length ≤ bound) (here : Nat → Task) (rest : List Task) (count : Nat) :
    (todosOfCopies one here rest count).length ≤ (count + 1) * (1 + bound) := by
  induction count with
  | zero =>
    rw [todosOfCopies, List.length_singleton]
    omega
  | succ count ih =>
    have := h (here count :: rest)
    rw [todosOfCopies, List.length_cons, List.length_append, Nat.succ_mul (count + 1)]
    omega

theorem length_todos_le (a : Pattern) (rest : List Task) :
    (todos name a rest).length ≤ a.stages := by
  induction a generalizing rest with
  | empty | one | look => exact Nat.le_refl 1
  | seq a b iha ihb =>
    have ha := iha (.match_ b :: rest)
    have hb := ihb rest
    rw [todos, stages, List.length_cons, List.length_append]
    omega
  | alt a b iha ihb =>
    have ha := iha rest
    have hb := ihb rest
    rw [todos, stages, List.length_cons, List.length_append]
    omega
  | group other a ih =>
    rw [todos, stages, List.length_cons]
    split
    · have := ih (.close :: rest)
      rw [List.length_cons]
      omega
    · have := ih rest
      omega
  | loop greedy a ih =>
    have := ih (.match_ (loop greedy a) :: rest)
    rw [todos, stages, List.length_cons]
    omega
  | copies count a ih | atMost count greedy a ih =>
    rw [todos, stages]
    exact length_todosOfCopies_le ih _ rest count

/-! ## One step -/

/-- What may be left to do after one step, be it on a character or on none, at whatever place. -/
def nextTodos (name : String) : List Task → List (List Task)
  | [] => []
  | .close :: rest => [rest]
  | .match_ a :: rest =>
    match a with
    | empty | one _ | look _ | copies 0 _ | atMost 0 _ _ => [rest]
    | seq a b => [.match_ a :: .match_ b :: rest]
    | alt a b => [.match_ a :: rest, .match_ b :: rest]
    | group other a =>
      if other = some name then [.match_ a :: .close :: rest] else [.match_ a :: rest]
    | loop greedy a => [.match_ a :: .match_ (loop greedy a) :: rest, rest]
    | copies (count + 1) a => [.match_ a :: .match_ (copies count a) :: rest]
    | atMost (count + 1) greedy a => [.match_ a :: .match_ (atMost count greedy a) :: rest, rest]

theorem todo_mem_of_mem_branches {t u : Thread} {place : Place}
    (h : u ∈ t.branches name place) (hne : t.todo ≠ []) (hr : t.isReady = false) :
    u.todo ∈ nextTodos name t.todo := by
  obtain ⟨todo, opened, captured⟩ := t
  unfold Thread.branches at h
  rcases todo with _ | ⟨a | _, rest⟩
  · exact absurd rfl hne
  · cases a with
    | empty | seq a b => simp_all [nextTodos]
    | one set => cases hr
    | look boundary =>
      dsimp only at h
      split at h
      · simp_all [nextTodos]
      · cases h
    | alt a b =>
      simp only [List.mem_cons, List.not_mem_nil, or_false] at h
      rcases h with rfl | rfl <;> simp [nextTodos]
    | group other a =>
      rw [nextTodos]
      dsimp only at h ⊢
      split at h <;> simp_all
    | loop greedy a =>
      cases greedy <;> simp at h <;> rcases h with rfl | rfl <;> simp [nextTodos]
    | copies count a => cases count <;> simp_all [nextTodos]
    | atMost count greedy a =>
      cases count with
      | zero => simp_all [nextTodos]
      | succ count => cases greedy <;> simp at h <;> rcases h with rfl | rfl <;> simp [nextTodos]
  · simp_all [nextTodos]

theorem todo_mem_of_read? {t u : Thread} {c : Char} (h : t.read? c = some u) :
    u.todo ∈ nextTodos name t.todo := by
  unfold Thread.read? at h
  split at h
  · next set rest ht =>
    split at h
    · obtain rfl := Option.some.inj h
      rw [ht]
      exact List.mem_singleton_self rest
    · cases h
  · cases h

/-- Copies of a pattern whose list no step leaves but to its rest, make another such list. -/
theorem mem_todosOfCopies_of_next {one : List Task → List (List Task)} {here : Nat → Task}
    {rest todo next : List Task} {count : Nat}
    (hone : ∀ rest todo, todo ∈ one rest → next ∈ nextTodos name todo →
      next = rest ∨ next ∈ one rest)
    (hzero : nextTodos name (here 0 :: rest) = [rest])
    (hsucc : ∀ count, ∀ next ∈ nextTodos name (here (count + 1) :: rest),
      next = rest ∨ next ∈ one (here count :: rest))
    (ht : todo ∈ todosOfCopies one here rest count) (hn : next ∈ nextTodos name todo) :
    next = rest ∨ next ∈ todosOfCopies one here rest count := by
  induction count with
  | zero =>
    rw [List.mem_singleton.1 ht, hzero] at hn
    exact Or.inl (List.mem_singleton.1 hn)
  | succ count ih =>
    rw [todosOfCopies, List.mem_cons, List.mem_append]
    rcases List.mem_cons.1 ht with rfl | ht
    · exact (hsucc count next hn).imp_right fun h => Or.inr (Or.inl h)
    · rcases List.mem_append.1 ht with ht | ht
      · rcases hone _ _ ht hn with rfl | h
        · exact Or.inr (Or.inr (Or.inr (mem_todosOfCopies one here rest count)))
        · exact Or.inr (Or.inr (Or.inl h))
      · exact (ih ht).imp_right fun h => Or.inr (Or.inr h)

/-- **No step leaves the list but to its rest.** -/
theorem mem_todos_of_next {a : Pattern} {rest todo next : List Task}
    (ht : todo ∈ todos name a rest) (hn : next ∈ nextTodos name todo) :
    next = rest ∨ next ∈ todos name a rest := by
  induction a generalizing rest todo with
  | empty | one | look =>
    rw [List.mem_singleton.1 ht] at hn
    exact Or.inl (List.mem_singleton.1 hn)
  | seq a b iha ihb =>
    rw [todos, List.mem_cons, List.mem_append]
    rcases List.mem_cons.1 ht with rfl | ht
    · rw [List.mem_singleton.1 hn]
      exact Or.inr (Or.inr (Or.inl (mem_todos a _)))
    · rcases List.mem_append.1 ht with ht | ht
      · rcases iha ht hn with rfl | h
        · exact Or.inr (Or.inr (Or.inr (mem_todos b rest)))
        · exact Or.inr (Or.inr (Or.inl h))
      · exact (ihb ht hn).imp_right fun h => Or.inr (Or.inr h)
  | alt a b iha ihb =>
    rw [todos, List.mem_cons, List.mem_append]
    rcases List.mem_cons.1 ht with rfl | ht
    · rcases List.mem_cons.1 hn with rfl | hn
      · exact Or.inr (Or.inr (Or.inl (mem_todos a rest)))
      · rw [List.mem_singleton.1 hn]
        exact Or.inr (Or.inr (Or.inr (mem_todos b rest)))
    · rcases List.mem_append.1 ht with ht | ht
      · exact (iha ht hn).imp_right fun h => Or.inr (Or.inl h)
      · exact (ihb ht hn).imp_right fun h => Or.inr (Or.inr h)
  | group other a ih =>
    by_cases hg : other = some name
    · rw [todos, if_pos hg] at ht ⊢
      rw [List.mem_cons, List.mem_cons]
      rcases List.mem_cons.1 ht with rfl | ht
      · rw [nextTodos, if_pos hg] at hn
        rw [List.mem_singleton.1 hn]
        exact Or.inr (Or.inr (Or.inr (mem_todos a _)))
      · rcases List.mem_cons.1 ht with rfl | ht
        · exact Or.inl (List.mem_singleton.1 hn)
        · exact Or.inr (Or.inr (ih ht hn))
    · rw [todos, if_neg hg] at ht ⊢
      rw [List.mem_cons]
      rcases List.mem_cons.1 ht with rfl | ht
      · rw [nextTodos, if_neg hg] at hn
        rw [List.mem_singleton.1 hn]
        exact Or.inr (Or.inr (mem_todos a rest))
      · exact (ih ht hn).imp_right Or.inr
  | loop greedy a ih =>
    rw [todos, List.mem_cons]
    rcases List.mem_cons.1 ht with rfl | ht
    · rcases List.mem_cons.1 hn with rfl | hn
      · exact Or.inr (Or.inr (mem_todos a _))
      · exact Or.inl (List.mem_singleton.1 hn)
    · rcases ih ht hn with rfl | h
      · exact Or.inr (Or.inl rfl)
      · exact Or.inr (Or.inr h)
  | copies count a ih =>
    refine mem_todosOfCopies_of_next (fun _ _ => ih) rfl (fun count next hn => ?_) ht hn
    rw [List.mem_singleton.1 hn]
    exact Or.inr (mem_todos a _)
  | atMost count greedy a ih =>
    refine mem_todosOfCopies_of_next (fun _ _ => ih) rfl (fun count next hn => ?_) ht hn
    rcases List.mem_cons.1 hn with rfl | hn
    · exact Or.inr (mem_todos a _)
    · exact Or.inl (List.mem_singleton.1 hn)

end LoginGate.Pattern
