import LoginGate.Pattern.Search

/-!
# Where a thread can get

`Finishes name position before text t u` says that the thread `t`, at a place of a text, can be
followed to a thread `u` that has nothing left to do, whatever other threads there are and whichever
of them is preferred.  What a thread has to do first says how it can be followed, with one lemma for
each kind of pattern, so that what a pattern matches is read off its shape:

    Finishes … ⟨.match_ (.one set) :: rest, …⟩ u ↔
      ∃ c text', text = c :: text' ∧ set.contains c ∧ Finishes … ⟨rest, …⟩ u    (finishes_one_iff)
    Finishes … ⟨.match_ (.loop greedy (.one set)) :: rest, …⟩ u ↔
      ∃ run text', text = run ++ text' ∧ … ∧ Finishes … ⟨rest, …⟩ u         (finishes_loop_one_iff)
-/

namespace LoginGate.Pattern

/-- Can the thread be followed from this place to one that has nothing left to do? -/
inductive Finishes (name : String) :
    Nat → Option Char → List Char → Thread → Thread → Prop
  | done {position : Nat} {before : Option Char} {text : List Char} {t : Thread} :
      t.todo = [] → Finishes name position before text t t
  | branch {position : Nat} {before : Option Char} {text : List Char} {t u v : Thread} :
      u ∈ t.branches name ⟨position, before, text.head?⟩ → t.todo ≠ [] → t.isReady = false →
      Finishes name position before text u v → Finishes name position before text t v
  | read {position : Nat} {before : Option Char} {c : Char} {rest : List Char} {t u v : Thread} :
      t.read? c = some u → Finishes name (position + 1) (some c) rest u v →
      Finishes name position before (c :: rest) t v

section

variable {name : String} {position : Nat} {before : Option Char} {text : List Char}
  {rest : List Task} {opened : Nat} {captured : Option (Nat × Nat)} {u : Thread}

/-! ## The kinds of tasks -/

theorem finishes_nil_iff :
    Finishes name position before text ⟨[], opened, captured⟩ u ↔ u = ⟨[], opened, captured⟩ := by
  constructor
  · intro h
    cases h with
    | done _ => rfl
    | branch _ hne => exact absurd rfl hne
    | read hr => cases hr
  · rintro rfl
    exact .done rfl

/-- A thread that needs no character goes on from one of its branches. -/
theorem finishes_branches_iff {t : Thread} (hne : t.todo ≠ []) (hr : t.isReady = false) :
    Finishes name position before text t u ↔
      ∃ v ∈ t.branches name ⟨position, before, text.head?⟩,
        Finishes name position before text v u := by
  constructor
  · intro h
    cases h with
    | done hd => exact absurd hd hne
    | branch hv _ _ h => exact ⟨_, hv, h⟩
    | read hread _ =>
      unfold Thread.isReady at hr
      unfold Thread.read? at hread
      split at hread
      · next hd =>
        rw [hd] at hr
        cases hr
      · cases hread
  · rintro ⟨v, hv, h⟩
    exact .branch hv hne hr h

theorem finishes_close_iff :
    Finishes name position before text ⟨.close :: rest, opened, captured⟩ u ↔
      Finishes name position before text ⟨rest, opened, some (opened, position)⟩ u := by
  rw [finishes_branches_iff (List.cons_ne_nil _ _) rfl]
  simp [Thread.branches]

theorem finishes_one_iff {set : CharSet} :
    Finishes name position before text ⟨.match_ (.one set) :: rest, opened, captured⟩ u ↔
      ∃ c text', text = c :: text' ∧ set.contains c = true ∧
        Finishes name (position + 1) (some c) text' ⟨rest, opened, captured⟩ u := by
  constructor
  · intro h
    cases h with
    | done hd => cases hd
    | branch _ _ hr => cases hr
    | @read _ _ c text' _ v _ hread h =>
      unfold Thread.read? at hread
      dsimp only at hread
      split at hread
      · next hc =>
        obtain rfl := Option.some.inj hread
        exact ⟨c, text', rfl, hc, h⟩
      · cases hread
  · rintro ⟨c, text', rfl, hc, h⟩
    refine .read ?_ h
    unfold Thread.read?
    exact if_pos hc

theorem finishes_look_iff {boundary : Boundary} :
    Finishes name position before text ⟨.match_ (.look boundary) :: rest, opened, captured⟩ u ↔
      boundary.holds before text.head? = true ∧
        Finishes name position before text ⟨rest, opened, captured⟩ u := by
  rw [finishes_branches_iff (List.cons_ne_nil _ _) rfl]
  by_cases h : boundary.holds before text.head? = true <;> simp [Thread.branches, h]

theorem finishes_seq_iff {a b : Pattern} :
    Finishes name position before text ⟨.match_ (.seq a b) :: rest, opened, captured⟩ u ↔
      Finishes name position before text ⟨.match_ a :: .match_ b :: rest, opened, captured⟩ u := by
  rw [finishes_branches_iff (List.cons_ne_nil _ _) rfl]
  simp [Thread.branches]

/-- The group that is asked for notes where it begins, and where it ends. -/
theorem finishes_group_iff {a : Pattern} :
    Finishes name position before text ⟨.match_ (.group (some name) a) :: rest, opened, captured⟩
        u ↔
      Finishes name position before text ⟨.match_ a :: .close :: rest, position, captured⟩ u := by
  rw [finishes_branches_iff (List.cons_ne_nil _ _) rfl]
  simp [Thread.branches]

theorem finishes_loop_iff {greedy : Bool} {a : Pattern} :
    Finishes name position before text ⟨.match_ (.loop greedy a) :: rest, opened, captured⟩ u ↔
      Finishes name position before text
          ⟨.match_ a :: .match_ (.loop greedy a) :: rest, opened, captured⟩ u ∨
        Finishes name position before text ⟨rest, opened, captured⟩ u := by
  rw [finishes_branches_iff (List.cons_ne_nil _ _) rfl]
  cases greedy
  · simp [Thread.branches, or_comm]
  · simp [Thread.branches]

theorem finishes_copies_zero_iff {a : Pattern} :
    Finishes name position before text ⟨.match_ (.copies 0 a) :: rest, opened, captured⟩ u ↔
      Finishes name position before text ⟨rest, opened, captured⟩ u := by
  rw [finishes_branches_iff (List.cons_ne_nil _ _) rfl]
  simp [Thread.branches]

/-! ## Several characters -/

/-- The character before a place is the last one that was read. -/
theorem getLast?_cons_or (c : Char) (s : List Char) :
    (c :: s).getLast?.or before = s.getLast?.or (some c) := by
  rw [List.getLast?_cons]
  cases s.getLast? <;> rfl

theorem sequence_singleton (a : Pattern) : sequence [a] = a := rfl

/-- Characters that are spelled out in front of a pattern are read one after the other. -/
theorem finishes_spelled_iff (s : List Char) (a : Pattern) (as : List Pattern) :
    Finishes name position before text
        ⟨.match_ (sequence (s.map (fun c => .one (.single c)) ++ a :: as)) :: rest, opened,
          captured⟩ u ↔
      ∃ text', text = s ++ text' ∧
        Finishes name (position + s.length) (s.getLast?.or before) text'
          ⟨.match_ (sequence (a :: as)) :: rest, opened, captured⟩ u := by
  induction s generalizing position before text with
  | nil => simp
  | cons c s ih =>
    obtain ⟨b, bs, hb⟩ : ∃ b bs, s.map (fun c => .one (.single c)) ++ a :: as = b :: bs := by
      cases s <;> exact ⟨_, _, rfl⟩
    rw [List.map_cons, List.cons_append, hb, sequence, ← hb, finishes_seq_iff, finishes_one_iff]
    · simp only [ih, CharSet.contains_single, beq_iff_eq, getLast?_cons_or, List.length_cons]
      constructor
      · rintro ⟨d, text', rfl, rfl, text'', rfl, h⟩
        refine ⟨text'', rfl, ?_⟩
        rwa [Nat.add_comm s.length, ← Nat.add_assoc]
      · rintro ⟨text'', rfl, h⟩
        refine ⟨c, s ++ text'', rfl, rfl, text'', rfl, ?_⟩
        rwa [Nat.add_assoc, Nat.add_comm 1]
    · exact List.cons_ne_nil b bs

/-- A loop of one character reads any run of characters of its set. -/
theorem finishes_loop_one_iff {greedy : Bool} {set : CharSet} :
    Finishes name position before text ⟨.match_ (.loop greedy (.one set)) :: rest, opened, captured⟩
        u ↔
      ∃ run text', text = run ++ text' ∧ (∀ c ∈ run, set.contains c = true) ∧
        Finishes name (position + run.length) (run.getLast?.or before) text'
          ⟨rest, opened, captured⟩ u := by
  constructor
  · intro h
    induction text generalizing position before with
    | nil =>
      rw [finishes_loop_iff, finishes_one_iff] at h
      rcases h with ⟨c, text', hn, -⟩ | h
      · cases hn
      · exact ⟨[], [], rfl, by simp, h⟩
    | cons c text ih =>
      rw [finishes_loop_iff, finishes_one_iff] at h
      rcases h with ⟨d, text', he, hd, h⟩ | h
      · obtain ⟨rfl, rfl⟩ := List.cons.inj he
        obtain ⟨run, text', rfl, hrun, h⟩ := ih h
        refine ⟨c :: run, text', rfl, List.forall_mem_cons.2 ⟨hd, hrun⟩, ?_⟩
        rwa [getLast?_cons_or, List.length_cons, Nat.add_comm run.length, ← Nat.add_assoc]
      · exact ⟨[], c :: text, rfl, by simp, h⟩
  · rintro ⟨run, text', rfl, hrun, h⟩
    induction run generalizing position before with
    | nil => exact finishes_loop_iff.2 (Or.inr h)
    | cons c run ih =>
      obtain ⟨hc, hrun⟩ := List.forall_mem_cons.1 hrun
      refine finishes_loop_iff.2 (Or.inl (finishes_one_iff.2 ⟨c, run ++ text', rfl, hc, ?_⟩))
      refine ih hrun ?_
      rwa [getLast?_cons_or, List.length_cons, Nat.add_comm run.length, ← Nat.add_assoc] at h

end

end LoginGate.Pattern
