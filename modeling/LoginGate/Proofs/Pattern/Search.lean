import Mathlib.Data.List.Perm.Subperm
import LoginGate.Proofs.Pattern.Following
import LoginGate.Proofs.Pattern.Stages

/-!
# What the search finds

The search follows many threads at once and drops those that have the same left to do as an earlier
one.  What it finds is a thread that could be followed from some start (`scan_of_forall`), and it
finds one wherever one can be (`isSome_scan`; both in `scan_exact`): what was seen at a place is
closed under branches, and the fuel of a place is enough for all of it.
-/

namespace LoginGate.Pattern

variable {name : String} {place : Place}

/-! ## What is found can be reached -/

/-- What holds of threads and of the branches of threads, holds of all that a place leaves. -/
theorem settle_of_forall {P : Thread → Prop}
    (step : ∀ t u, P t → t.todo ≠ [] → t.isReady = false → u ∈ t.branches name place → P u)
    (fuel : Nat) {pending : List Thread} (seen : List (List Task)) {ready : List Thread}
    (hp : ∀ t ∈ pending, P t) (hr : ∀ t ∈ ready, P t ∧ t.isReady = true) :
    (∀ t ∈ (settle name place fuel pending seen ready).ready, P t ∧ t.isReady = true) ∧
      ∀ t, (settle name place fuel pending seen ready).matched = some t → P t ∧ t.todo = [] := by
  fun_induction settle name place fuel pending seen ready with
  | case1 => exact ⟨fun t ht => hr t (List.mem_reverse.1 ht), fun t ht => by cases ht⟩
  | case2 => exact ⟨fun t ht => hr t (List.mem_reverse.1 ht), fun t ht => by cases ht⟩
  | case3 _ t _ _ _ _ ih => exact ih (fun u hu => hp u (List.mem_cons_of_mem t hu)) hr
  | case4 _ t _ _ _ _ hd =>
    refine ⟨fun u hu => hr u (List.mem_reverse.1 hu), fun u hu => ?_⟩
    obtain rfl := Option.some.inj hu
    exact ⟨hp t List.mem_cons_self, hd⟩
  | case5 _ t _ _ _ _ _ hready ih =>
    refine ih (fun u hu => hp u (List.mem_cons_of_mem t hu)) ?_
    exact List.forall_mem_cons.2 ⟨⟨hp t List.mem_cons_self, hready⟩, hr⟩
  | case6 _ t _ _ _ _ hd hready ih =>
    refine ih (fun u hu => ?_) hr
    rcases List.mem_append.1 hu with hu | hu
    · exact step t u (hp t List.mem_cons_self) hd (Bool.eq_false_iff.2 hready) hu
    · exact hp u (List.mem_cons_of_mem t hu)

section

variable {a : Pattern} {best : Option Thread} {threads : List Thread} {position : Nat}
  {before : Option Char} {text : List Char}

/-- The threads at a place: those that come there, and a new one unless there is a match. -/
def threadsAt (a : Pattern) (best : Option Thread) (threads : List Thread) (position : Nat) :
    List Thread :=
  threads ++ if best.isNone then [⟨[.match_ a], position, none⟩] else []

/-- What is left of the threads at a place. -/
def standingAt (name : String) (a : Pattern) (best : Option Thread) (threads : List Thread)
    (position : Nat) (before : Option Char) (text : List Char) : Standing :=
  settle name ⟨position, before, text.head?⟩ a.settleFuel (threadsAt a best threads position) [] []

theorem scan_nil : scan name a best threads position before [] =
    (standingAt name a best threads position before []).matched.or best := rfl

theorem scan_cons (c : Char) (rest : List Char) :
    scan name a best threads position before (c :: rest) =
      scan name a ((standingAt name a best threads position before (c :: rest)).matched.or best)
        ((standingAt name a best threads position before (c :: rest)).ready.filterMap
          (Thread.read? c)) (position + 1) (some c) rest := rfl

/-- Can a new thread be followed from somewhere in the text to this one? -/
def Starts (name : String) (a : Pattern) (position : Nat) (before : Option Char) (text : List Char)
    (v : Thread) : Prop :=
  ∃ l r, text = l ++ r ∧ Finishes name (position + l.length) (l.getLast?.or before) r
    ⟨[.match_ a], position + l.length, none⟩ v

theorem starts_cons_iff {c : Char} {rest : List Char} {v : Thread} :
    Starts name a position before (c :: rest) v ↔
      Finishes name position before (c :: rest) ⟨[.match_ a], position, none⟩ v ∨
        Starts name a (position + 1) (some c) rest v := by
  unfold Starts
  constructor
  · rintro ⟨l, r, he, h⟩
    cases l with
    | nil =>
      obtain rfl : c :: rest = r := he
      exact Or.inl h
    | cons d l =>
      obtain ⟨rfl, rfl⟩ := List.cons.inj he
      refine Or.inr ⟨l, r, rfl, ?_⟩
      rwa [getLast?_cons_or, List.length_cons, Nat.add_comm l.length, ← Nat.add_assoc] at h
  · rintro (h | ⟨l, r, rfl, h⟩)
    · exact ⟨[], c :: rest, rfl, h⟩
    · refine ⟨c :: l, r, rfl, ?_⟩
      rwa [getLast?_cons_or, List.length_cons, Nat.add_comm l.length, ← Nat.add_assoc]

theorem starts_nil_iff {v : Thread} : Starts name a position before [] v ↔
    Finishes name position before [] ⟨[.match_ a], position, none⟩ v := by
  constructor
  · rintro ⟨l, r, he, h⟩
    obtain ⟨rfl, rfl⟩ := List.append_eq_nil_iff.1 he.symm
    exact h
  · intro h
    exact ⟨[], [], rfl, h⟩

theorem Starts.here {v : Thread}
    (h : Finishes name position before text ⟨[.match_ a], position, none⟩ v) :
    Starts name a position before text v :=
  ⟨[], text, rfl, h⟩

/-- What holds of all that the threads of a place can be followed to, holds of what has matched
there and of all that is left to be followed. -/
theorem standingAt_of_forall {Q : Thread → Prop} (hbest : ∀ v, best = some v → Q v)
    (hthreads : ∀ t ∈ threads, ∀ v, Finishes name position before text t v → Q v)
    (hstart : ∀ v, Finishes name position before text ⟨[.match_ a], position, none⟩ v → Q v) :
    (∀ v, (standingAt name a best threads position before text).matched.or best = some v → Q v) ∧
      ∀ t ∈ (standingAt name a best threads position before text).ready, ∀ v,
        Finishes name position before text t v → Q v := by
  have hplace : ∀ t ∈ threadsAt a best threads position, ∀ v,
      Finishes name position before text t v → Q v := by
    intro t ht
    rcases List.mem_append.1 ht with ht | ht
    · exact hthreads t ht
    · split at ht
      · rw [List.mem_singleton.1 ht]
        exact hstart
      · cases ht
  have hstep : ∀ t u : Thread, (∀ v, Finishes name position before text t v → Q v) → t.todo ≠ [] →
      t.isReady = false → u ∈ t.branches name ⟨position, before, text.head?⟩ →
      ∀ v, Finishes name position before text u v → Q v :=
    fun t u ht hne hr hu v hv => ht v (.branch hu hne hr hv)
  have hs := settle_of_forall hstep a.settleFuel [] hplace (List.forall_mem_nil _)
  refine ⟨fun v hv => ?_, fun t ht => (hs.1 t ht).1⟩
  rcases Option.or_eq_some_iff.1 hv with hm | ⟨-, hb⟩
  · exact (hs.2 v hm).1 v (.done (hs.2 v hm).2)
  · exact hbest v hb

/-- What holds of all that the threads and the starts can be followed to, holds of what the search
finds. -/
theorem scan_of_forall {Q : Thread → Prop} (hbest : ∀ v, best = some v → Q v)
    (hthreads : ∀ t ∈ threads, ∀ v, Finishes name position before text t v → Q v)
    (hstarts : ∀ v, Starts name a position before text v → Q v) :
    ∀ v, scan name a best threads position before text = some v → Q v := by
  induction text generalizing best threads position before with
  | nil => exact (standingAt_of_forall hbest hthreads fun v hv => hstarts v (.here hv)).1
  | cons c rest ih =>
    obtain ⟨hmatched, hready⟩ :=
      standingAt_of_forall hbest hthreads fun v hv => hstarts v (.here hv)
    rw [scan_cons]
    refine ih hmatched ?_ fun v hv => hstarts v (starts_cons_iff.2 (Or.inr hv))
    intro u hu v hv
    obtain ⟨t, ht, hread⟩ := List.mem_filterMap.1 hu
    exact hready t ht v (.read hread hv)

end

/-! ## What can be reached is found -/

/-- Only what is left to do says how a thread can be followed. -/
theorem map_todo_branches {t u : Thread} (h : t.todo = u.todo) :
    (t.branches name place).map Thread.todo = (u.branches name place).map Thread.todo := by
  obtain ⟨todo, opened, captured⟩ := t
  obtain ⟨todo', opened', captured'⟩ := u
  obtain rfl : todo = todo' := h
  unfold Thread.branches
  rcases todo with _ | ⟨a | _, rest⟩
  · rfl
  · cases a with
    | look boundary | group other a => dsimp only; split <;> rfl
    | loop greedy a => cases greedy <;> rfl
    | copies count a => cases count <;> rfl
    | atMost count greedy a => cases count <;> cases greedy <;> rfl
    | _ => rfl
  · rfl

theorem length_branches_le (t : Thread) : (t.branches name place).length ≤ 2 := by
  unfold Thread.branches
  rcases t.todo with _ | ⟨a | _, rest⟩
  · simp
  · cases a with
    | look boundary | group other a => dsimp only; split <;> simp
    | loop greedy a => cases greedy <;> simp
    | copies count a => cases count <;> simp
    | atMost count greedy a => cases count <;> cases greedy <;> simp
    | _ => simp
  · simp

theorem isReady_eq_of_todo_eq {t u : Thread} (h : t.todo = u.todo) : t.isReady = u.isReady := by
  unfold Thread.isReady
  rw [h]

theorem eq_of_read? {t u : Thread} {c : Char} (h : t.read? c = some u) :
    ∃ set rest, t.todo = .match_ (one set) :: rest ∧ set.contains c = true ∧
      u = { t with todo := rest } := by
  unfold Thread.read? at h
  split at h
  · next set rest ht =>
    split at h
    · next hc => exact ⟨set, rest, ht, hc, (Option.some.inj h).symm⟩
    · cases h
  · cases h

theorem read?_of_todo_eq {t u v : Thread} {c : Char} (h : u.todo = t.todo)
    (hread : t.read? c = some v) : ∃ w, u.read? c = some w ∧ w.todo = v.todo := by
  obtain ⟨set, rest, ht, hc, rfl⟩ := eq_of_read? hread
  refine ⟨{ u with todo := rest }, ?_, rfl⟩
  unfold Thread.read?
  rw [h, ht]
  exact if_pos hc

theorem isReady_of_read? {t u : Thread} {c : Char} (h : t.read? c = some u) : t.isReady = true := by
  obtain ⟨set, rest, ht, -, -⟩ := eq_of_read? h
  unfold Thread.isReady
  rw [ht]

theorem Finishes.of_todo_eq {position : Nat} {before : Option Char} {text : List Char}
    {t u v : Thread} (h : Finishes name position before text t v) (hu : u.todo = t.todo) :
    ∃ w, Finishes name position before text u w := by
  induction h generalizing u with
  | done ht => exact ⟨u, .done (hu.trans ht)⟩
  | @branch position before text t w v hw hne hr _ ih =>
    have hmem : w.todo ∈ (u.branches name ⟨position, before, text.head?⟩).map Thread.todo := by
      rw [map_todo_branches hu]
      exact List.mem_map_of_mem hw
    obtain ⟨x, hx, he⟩ := List.mem_map.1 hmem
    obtain ⟨y, hy⟩ := ih he
    exact ⟨y, .branch hx (hu ▸ hne) (isReady_eq_of_todo_eq hu ▸ hr) hy⟩
  | read hread _ ih =>
    obtain ⟨x, hx, he⟩ := read?_of_todo_eq hu hread
    obtain ⟨y, hy⟩ := ih he
    exact ⟨y, .read hx hy⟩

/-- What was seen at a place is kept where it needs a character, and its branches are seen or
pending otherwise. -/
structure Tracked (name : String) (place : Place) (pending : List Thread) (seen : List (List Task))
    (ready : List Thread) : Prop where
  ne_nil : [] ∉ seen
  kept : ∀ t : Thread, t.todo ∈ seen → t.isReady = true → ∃ u ∈ ready, u.todo = t.todo
  followed : ∀ t : Thread, t.todo ∈ seen → t.isReady = false → ∀ u ∈ t.branches name place,
    u.todo ∈ seen ∨ ∃ p ∈ pending, p.todo = u.todo

namespace Tracked

variable {t : Thread} {pending ready : List Thread} {seen : List (List Task)}

theorem start (pending : List Thread) : Tracked name place pending [] [] where
  ne_nil := List.not_mem_nil
  kept := fun _ h => absurd h List.not_mem_nil
  followed := fun _ h => absurd h List.not_mem_nil

theorem reverse (h : Tracked name place pending seen ready) :
    Tracked name place pending seen ready.reverse where
  ne_nil := h.ne_nil
  kept := fun t ht hr => by simpa using h.kept t ht hr
  followed := h.followed

/-- A thread with nothing new to do may be dropped. -/
theorem skip (h : Tracked name place (t :: pending) seen ready) (ht : t.todo ∈ seen) :
    Tracked name place pending seen ready where
  ne_nil := h.ne_nil
  kept := h.kept
  followed := by
    intro u hu hr v hv
    rcases h.followed u hu hr v hv with hs | ⟨p, hp, he⟩
    · exact Or.inl hs
    · rcases List.mem_cons.1 hp with rfl | hp
      · exact Or.inl (he ▸ ht)
      · exact Or.inr ⟨p, hp, he⟩

theorem keep (h : Tracked name place (t :: pending) seen ready) (hne : t.todo ≠ [])
    (ht : t.isReady = true) : Tracked name place pending (t.todo :: seen) (t :: ready) where
  ne_nil := by
    intro hm
    exact (List.mem_cons.1 hm).elim (fun he => hne he.symm) h.ne_nil
  kept := by
    intro u hu hr
    rcases List.mem_cons.1 hu with he | hu
    · exact ⟨t, List.mem_cons_self, he.symm⟩
    · obtain ⟨w, hw, he⟩ := h.kept u hu hr
      exact ⟨w, List.mem_cons_of_mem t hw, he⟩
  followed := by
    intro u hu hr v hv
    rcases List.mem_cons.1 hu with he | hu
    · rw [isReady_eq_of_todo_eq he, ht] at hr
      cases hr
    · rcases h.followed u hu hr v hv with hs | ⟨p, hp, he⟩
      · exact Or.inl (List.mem_cons_of_mem _ hs)
      · rcases List.mem_cons.1 hp with rfl | hp
        · exact Or.inl (he ▸ List.mem_cons_self)
        · exact Or.inr ⟨p, hp, he⟩

theorem follow (h : Tracked name place (t :: pending) seen ready) (hne : t.todo ≠ [])
    (ht : t.isReady = false) :
    Tracked name place (t.branches name place ++ pending) (t.todo :: seen) ready where
  ne_nil := by
    intro hm
    exact (List.mem_cons.1 hm).elim (fun he => hne he.symm) h.ne_nil
  kept := by
    intro u hu hr
    rcases List.mem_cons.1 hu with he | hu
    · rw [isReady_eq_of_todo_eq he, ht] at hr
      cases hr
    · exact h.kept u hu hr
  followed := by
    intro u hu hr v hv
    rcases List.mem_cons.1 hu with he | hu
    · have hm : v.todo ∈ (t.branches name place).map Thread.todo := by
        rw [← map_todo_branches he]
        exact List.mem_map_of_mem hv
      obtain ⟨p, hp, he⟩ := List.mem_map.1 hm
      exact Or.inr ⟨p, List.mem_append_left pending hp, he⟩
    · rcases h.followed u hu hr v hv with hs | ⟨p, hp, he⟩
      · exact Or.inl (List.mem_cons_of_mem _ hs)
      · rcases List.mem_cons.1 hp with rfl | hp
        · exact Or.inl (he ▸ List.mem_cons_self)
        · exact Or.inr ⟨p, List.mem_append_right _ hp, he⟩

end Tracked

/-- How the threads of a place are kept within the list of what may be left to do. -/
structure Bounded (name : String) (a : Pattern) (pending : List Thread) (seen : List (List Task))
    (ready : List Thread) : Prop where
  nodup : seen.Nodup
  seen_mem : ∀ todo ∈ seen, todo ∈ todos name a []
  pending_mem : ∀ t ∈ pending, t.todo = [] ∨ t.todo ∈ todos name a []
  ready_length : ready.length ≤ seen.length

namespace Bounded

variable {a : Pattern} {t : Thread} {pending ready : List Thread} {seen : List (List Task)}

theorem length_seen_le (h : Bounded name a pending seen ready) : seen.length ≤ a.stages :=
  Nat.le_trans (h.nodup.subperm h.seen_mem).length_le (length_todos_le a [])

theorem skip (h : Bounded name a (t :: pending) seen ready) :
    Bounded name a pending seen ready where
  nodup := h.nodup
  seen_mem := h.seen_mem
  pending_mem := fun u hu => h.pending_mem u (List.mem_cons_of_mem t hu)
  ready_length := h.ready_length

theorem keep (h : Bounded name a (t :: pending) seen ready) (hs : t.todo ∉ seen)
    (hne : t.todo ≠ []) : Bounded name a pending (t.todo :: seen) (t :: ready) where
  nodup := List.nodup_cons.2 ⟨hs, h.nodup⟩
  seen_mem := List.forall_mem_cons.2
    ⟨(h.pending_mem t List.mem_cons_self).resolve_left hne, h.seen_mem⟩
  pending_mem := h.skip.pending_mem
  ready_length := Nat.succ_le_succ h.ready_length

theorem follow (h : Bounded name a (t :: pending) seen ready) (hs : t.todo ∉ seen)
    (hne : t.todo ≠ []) (hr : t.isReady = false) :
    Bounded name a (t.branches name place ++ pending) (t.todo :: seen) ready where
  nodup := (h.keep hs hne).nodup
  seen_mem := (h.keep hs hne).seen_mem
  pending_mem := by
    intro u hu
    rcases List.mem_append.1 hu with hu | hu
    · exact mem_todos_of_next ((h.pending_mem t List.mem_cons_self).resolve_left hne)
        (todo_mem_of_mem_branches hu hne hr)
    · exact h.skip.pending_mem u hu
  ready_length := Nat.le_succ_of_le h.ready_length

end Bounded

/-- **The fuel of a place is enough.**  Unless a thread has matched, all that was seen and pending
is seen in the end, and nothing is pending any more. -/
theorem exists_tracked_settle {a : Pattern} {fuel : Nat} {pending ready : List Thread}
    {seen : List (List Task)} (hf : pending.length + 2 * (a.stages - seen.length) ≤ fuel)
    (ht : Tracked name place pending seen ready) (hb : Bounded name a pending seen ready)
    (hm : (settle name place fuel pending seen ready).matched = none) :
    ∃ seen', (∀ todo ∈ seen, todo ∈ seen') ∧ (∀ t ∈ pending, t.todo ∈ seen') ∧
      Tracked name place [] seen' (settle name place fuel pending seen ready).ready ∧
      (settle name place fuel pending seen ready).ready.length ≤ a.stages := by
  fun_induction settle name place fuel pending seen ready with
  | case1 pending seen ready =>
    obtain rfl : pending = [] := List.eq_nil_of_length_eq_zero (by omega)
    refine ⟨seen, fun _ h => h, List.forall_mem_nil _, ht.reverse, ?_⟩
    rw [List.length_reverse]
    exact Nat.le_trans hb.ready_length hb.length_seen_le
  | case2 fuel seen ready =>
    refine ⟨seen, fun _ h => h, List.forall_mem_nil _, ht.reverse, ?_⟩
    rw [List.length_reverse]
    exact Nat.le_trans hb.ready_length hb.length_seen_le
  | case3 fuel t pending seen ready hs ih =>
    rw [List.length_cons] at hf
    obtain ⟨seen', h1, h2, h3⟩ := ih (by omega) (ht.skip hs) hb.skip hm
    exact ⟨seen', h1, List.forall_mem_cons.2 ⟨h1 _ hs, h2⟩, h3⟩
  | case4 => cases hm
  | case5 fuel t pending seen ready hs hne hr ih =>
    have hb' := hb.keep hs hne
    have hlen := hb'.length_seen_le
    rw [List.length_cons] at hf hlen
    obtain ⟨seen', h1, h2, h3⟩ := ih (by rw [List.length_cons]; omega) (ht.keep hne hr) hb' hm
    obtain ⟨hseen, h1⟩ := List.forall_mem_cons.1 h1
    exact ⟨seen', h1, List.forall_mem_cons.2 ⟨hseen, h2⟩, h3⟩
  | case6 fuel t pending seen ready hs hne hr ih =>
    have hr' := Bool.eq_false_iff.2 hr
    have hb' : Bounded name a (t.branches name place ++ pending) (t.todo :: seen) ready :=
      hb.follow hs hne hr'
    have hlen := hb'.length_seen_le
    have htwo : (t.branches name place).length ≤ 2 := length_branches_le t
    rw [List.length_cons] at hf hlen
    obtain ⟨seen', h1, h2, h3⟩ := ih (by rw [List.length_cons, List.length_append]; omega)
      (ht.follow hne hr') hb' hm
    obtain ⟨hseen, h1⟩ := List.forall_mem_cons.1 h1
    refine ⟨seen', h1, List.forall_mem_cons.2 ⟨hseen, fun u hu => ?_⟩, h3⟩
    exact h2 u (List.mem_append_right _ hu)

/-- A thread that was seen and can be followed to the end is followed on by one that needs a
character, and reads it. -/
theorem Tracked.exists_read {position : Nat} {before : Option Char} {text : List Char}
    {seen : List (List Task)} {ready : List Thread} {t v : Thread}
    (ht : Tracked name ⟨position, before, text.head?⟩ [] seen ready)
    (h : Finishes name position before text t v) (hs : t.todo ∈ seen) :
    ∃ c rest, text = c :: rest ∧ ∃ u ∈ ready.filterMap (Thread.read? c), ∃ w,
      Finishes name (position + 1) (some c) rest u w := by
  induction h with
  | done hd => exact absurd (hd ▸ hs) ht.ne_nil
  | branch hu hne hr _ ih =>
    rcases ht.followed _ hs hr _ hu with hm | ⟨p, hp, -⟩
    · exact ih ht hm
    · cases hp
  | @read position before c rest t u v hread h ih =>
    obtain ⟨x, hx, he⟩ := ht.kept t hs (isReady_of_read? hread)
    obtain ⟨y, hy, he⟩ := read?_of_todo_eq he hread
    obtain ⟨w, hw⟩ := h.of_todo_eq he
    exact ⟨c, rest, rfl, y, List.mem_filterMap.2 ⟨x, hx, hy⟩, w, hw⟩

section

variable {a : Pattern} {best : Option Thread} {threads : List Thread} {position : Nat}
  {before : Option Char} {text : List Char}

theorem isSome_scan_of_best (h : best.isSome = true) :
    (scan name a best threads position before text).isSome = true := by
  induction text generalizing best threads position before with
  | nil =>
    rw [scan_nil, Option.isSome_or, h, Bool.or_true]
  | cons c rest ih =>
    rw [scan_cons]
    refine ih ?_
    rw [Option.isSome_or, h, Bool.or_true]

/-- The threads that come to a place are few, and all of them have something of the list to do. -/
def Few (name : String) (a : Pattern) (threads : List Thread) : Prop :=
  threads.length ≤ a.stages ∧ ∀ t ∈ threads, t.todo = [] ∨ t.todo ∈ todos name a []

/-- A place at which nothing has matched leaves few threads, and sees all that came there. -/
theorem exists_tracked_standingAt (hf : Few name a threads)
    (hm : (standingAt name a none threads position before text).matched = none) :
    ∃ seen, (∀ t ∈ threadsAt a none threads position, t.todo ∈ seen) ∧
      Tracked name ⟨position, before, text.head?⟩ [] seen
        (standingAt name a none threads position before text).ready ∧
      ∀ c, Few name a ((standingAt name a none threads position before text).ready.filterMap
        (Thread.read? c)) := by
  have hmem : ∀ t ∈ threadsAt a none threads position, t.todo = [] ∨ t.todo ∈ todos name a [] := by
    intro t ht
    rcases List.mem_append.1 ht with ht | ht
    · exact hf.2 t ht
    · rw [List.mem_singleton.1 ht]
      exact Or.inr (mem_todos a [])
  have hlen : (threadsAt a none threads position).length = threads.length + 1 := List.length_append
  have hb : Bounded name a (threadsAt a none threads position) [] [] :=
    ⟨List.nodup_nil, List.forall_mem_nil _, hmem, Nat.le_refl 0⟩
  have hfuel : (threadsAt a none threads position).length +
      2 * (a.stages - ([] : List (List Task)).length) ≤ a.settleFuel := by
    have := hf.1
    rw [hlen, List.length_nil, settleFuel]
    omega
  obtain ⟨seen, -, hseen, ht, hr⟩ := exists_tracked_settle hfuel (.start _) hb hm
  refine ⟨seen, hseen, ht, fun c => ⟨Nat.le_trans (List.length_filterMap_le _ _) hr, ?_⟩⟩
  intro u hu
  obtain ⟨t, ht, hread⟩ := List.mem_filterMap.1 hu
  have hstep : ∀ t u : Thread, t.todo = [] ∨ t.todo ∈ todos name a [] → t.todo ≠ [] →
      t.isReady = false → u ∈ t.branches name ⟨position, before, text.head?⟩ →
      u.todo = [] ∨ u.todo ∈ todos name a [] := fun t u ht hne hr hu =>
    mem_todos_of_next (ht.resolve_left hne) (todo_mem_of_mem_branches hu hne hr)
  have hs := settle_of_forall hstep a.settleFuel [] hmem (List.forall_mem_nil _)
  obtain ⟨set, rest, htodo, -, -⟩ := eq_of_read? hread
  have hne : t.todo ≠ [] := by
    rw [htodo]
    exact List.cons_ne_nil _ _
  exact mem_todos_of_next ((hs.1 t ht).1.resolve_left hne) (todo_mem_of_read? hread)

/-- A thread that comes to a place, or starts there, is one of the threads at the place. -/
theorem exists_mem_threadsAt {v : Thread}
    (h : (∃ t ∈ threads, ∃ v, Finishes name position before text t v) ∨
      Finishes name position before text ⟨[.match_ a], position, none⟩ v) :
    ∃ t ∈ threadsAt a none threads position, ∃ v, Finishes name position before text t v := by
  rcases h with ⟨t, ht, h⟩ | h
  · exact ⟨t, List.mem_append_left _ ht, h⟩
  · exact ⟨_, List.mem_append_right threads (List.mem_singleton_self _), v, h⟩

/-- The search finds something where a thread or a start can be followed to the end. -/
theorem isSome_scan {v : Thread} (hf : Few name a threads)
    (h : (∃ t ∈ threads, ∃ v, Finishes name position before text t v) ∨
      Starts name a position before text v) :
    (scan name a none threads position before text).isSome = true := by
  induction text generalizing threads position before with
  | nil =>
    rw [scan_nil, Option.or_none]
    cases hm : (standingAt name a none threads position before []).matched with
    | some w => rfl
    | none =>
      rw [starts_nil_iff] at h
      obtain ⟨t, ht, w, hw⟩ := exists_mem_threadsAt h
      obtain ⟨seen, hseen, htr, -⟩ := exists_tracked_standingAt hf hm
      obtain ⟨c, rest, he, -⟩ := htr.exists_read hw (hseen t ht)
      cases he
  | cons c rest ih =>
    rw [scan_cons, Option.or_none]
    cases hm : (standingAt name a none threads position before (c :: rest)).matched with
    | some w => exact isSome_scan_of_best rfl
    | none =>
      obtain ⟨seen, hseen, htr, hfew⟩ := exists_tracked_standingAt hf hm
      refine ih (hfew c) ?_
      rw [starts_cons_iff, ← or_assoc] at h
      rcases h with h | h
      · obtain ⟨t, ht, w, hw⟩ := exists_mem_threadsAt h
        obtain ⟨d, rest', he, hread⟩ := htr.exists_read hw (hseen t ht)
        obtain ⟨rfl, rfl⟩ := List.cons.inj he
        exact Or.inl hread
      · exact Or.inr h

end

/-! ## Whole texts -/

theorem few_nil (a : Pattern) : Few name a [] :=
  ⟨Nat.zero_le _, List.forall_mem_nil _⟩

/-- **The search is exact.**  It finds a thread that can be followed from somewhere in the text to
its end, and finds one wherever there is one. -/
theorem scan_exact (name : String) (a : Pattern) (text : List Char) :
    (∀ v, scan name a none [] 0 none text = some v → Starts name a 0 none text v) ∧
      ((scan name a none [] 0 none text).isSome = true ↔ ∃ v, Starts name a 0 none text v) := by
  have hsound : ∀ v, scan name a none [] 0 none text = some v → Starts name a 0 none text v :=
    scan_of_forall (fun v hv => by cases hv) (List.forall_mem_nil _) fun v hv => hv
  refine ⟨hsound, fun h => ?_, fun ⟨v, hv⟩ => isSome_scan (few_nil a) (Or.inr hv)⟩
  obtain ⟨v, hv⟩ := Option.isSome_iff_exists.1 h
  exact ⟨v, hsound v hv⟩

/-- Where no start can be followed to the end, there is no match. -/
theorem captured?_of_not_starts {name : String} {a : Pattern} {text : List Char}
    (h : ∀ v, ¬ Starts name a 0 none text v) : a.captured? name text = none := by
  unfold captured?
  cases hv : scan name a none [] 0 none text with
  | none => rfl
  | some v => exact absurd ((scan_exact name a text).1 v hv) (h v)

/-- Where all ways to follow the pattern agree on the stretch of the group, that stretch is what the
group matched. -/
theorem captured?_of_starts {name : String} {a : Pattern} {text : List Char} {start finish : Nat}
    (hex : ∃ v, Starts name a 0 none text v)
    (hall : ∀ v, Starts name a 0 none text v → v.captured = some (start, finish)) :
    a.captured? name text = some ((text.drop start).take (finish - start)) := by
  obtain ⟨v, hv⟩ := Option.isSome_iff_exists.1 ((scan_exact name a text).2.2 hex)
  unfold captured?
  rw [hv]
  dsimp only [Option.bind_eq_bind, Option.bind_some]
  rw [hall v ((scan_exact name a text).1 v hv), Option.bind_some]

end LoginGate.Pattern
