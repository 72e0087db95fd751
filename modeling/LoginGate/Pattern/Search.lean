import LoginGate.Pattern.Basic

/-!
# Searching a text

All preferences are followed at once: `Thread`s walk over the text side by side, in order of
preference, and of two threads that have the same left to match the later one is dropped.  The
match that is found is the one that starts first, and of those the most preferred.
-/

namespace LoginGate.Pattern

/-- What a thread has left to do. -/
inductive Task where
  | match_ (a : Pattern)
  /-- The end of the group that is asked for. -/
  | close
  deriving DecidableEq, Repr, Inhabited

/-- One way to match the pattern, followed up to a place in the text. -/
structure Thread where
  todo : List Task
  /-- Where the group that is asked for began last. -/
  opened : Nat
  /-- The stretch that the group matched last. -/
  captured : Option (Nat × Nat)
  deriving Repr, Inhabited

/-- A place in a text: its distance from the start, and the characters around it. -/
structure Place where
  position : Nat
  before : Option Char
  after : Option Char
  deriving Repr, Inhabited

/-- The threads that go on from a thread without reading a character, in order of preference. -/
def Thread.branches (name : String) (place : Place) (t : Thread) : List Thread :=
  match t.todo with
  | [] => [t]
  | .close :: rest => [{ t with todo := rest, captured := some (t.opened, place.position) }]
  | .match_ a :: rest =>
    let goOn := fun todo => { t with todo : Thread }
    let prefer := fun (greedy : Bool) more => if greedy then [more, goOn rest] else [goOn rest, more]
    match a with
    | empty => [goOn rest]
    | one _ => [t]
    | look boundary => if boundary.holds place.before place.after then [goOn rest] else []
    | seq a b => [goOn (.match_ a :: .match_ b :: rest)]
    | alt a b => [goOn (.match_ a :: rest), goOn (.match_ b :: rest)]
    | group groupName a =>
      if groupName = some name then
        [{ t with todo := .match_ a :: .close :: rest, opened := place.position }]
      else [goOn (.match_ a :: rest)]
    | loop greedy a => prefer greedy (goOn (.match_ a :: .match_ (loop greedy a) :: rest))
    | copies 0 _ => [goOn rest]
    | copies (count + 1) a => [goOn (.match_ a :: .match_ (copies count a) :: rest)]
    | atMost 0 _ _ => [goOn rest]
    | atMost (count + 1) greedy a =>
      prefer greedy (goOn (.match_ a :: .match_ (atMost count greedy a) :: rest))

def Thread.isReady (t : Thread) : Bool :=
  match t.todo with
  | .match_ (one _) :: _ => true
  | _ => false

/-- The thread after a character, if the character is one that it needs. -/
def Thread.read? (c : Char) (t : Thread) : Option Thread :=
  match t.todo with
  | .match_ (one set) :: rest => if set.contains c then some { t with todo := rest } else none
  | _ => none

/-- What is known at a place: the threads that need a character, and the thread that has matched,
if one has.  Threads after that one are dropped. -/
structure Standing where
  ready : List Thread
  matched : Option Thread
  deriving Repr, Inhabited

/-- Follows the threads as far as they go without reading a character.  `seen` is what threads
before had left to do. -/
def settle (name : String) (place : Place) :
    Nat → List Thread → List (List Task) → List Thread → Standing
  | 0, _, _, ready => ⟨ready.reverse, none⟩
  | _, [], _, ready => ⟨ready.reverse, none⟩
  | fuel + 1, t :: pending, seen, ready =>
    if t.todo ∈ seen then settle name place fuel pending seen ready
    else if t.todo = [] then ⟨ready.reverse, some t⟩
    else if t.isReady then settle name place fuel pending (t.todo :: seen) (t :: ready)
    else settle name place fuel (t.branches name place ++ pending) (t.todo :: seen) ready

/-- A bound on how many different things there may be left to do while the pattern is matched. -/
def stages : Pattern → Nat
  | empty => 1
  | one _ => 1
  | look _ => 1
  | seq a b => 1 + a.stages + b.stages
  | alt a b => 1 + a.stages + b.stages
  | group _ a => 2 + a.stages
  | loop _ a => 1 + a.stages
  | copies count a => (count + 1) * (1 + a.stages)
  | atMost count _ a => (count + 1) * (1 + a.stages)

/-- As many steps as `settle` may need: every thing that is left to do is followed once and adds at
most two threads. -/
def settleFuel (a : Pattern) : Nat := 3 * (a.stages + 1)

/-- The thread of the most preferred match in the rest of a text.  A new thread starts at every
place until there is a match. -/
def scan (name : String) (a : Pattern) (best : Option Thread) (threads : List Thread)
    (position : Nat) (before : Option Char) (text : List Char) : Option Thread :=
  let fresh := if best.isNone then [⟨[.match_ a], position, none⟩] else []
  let standing :=
    settle name ⟨position, before, text.head?⟩ a.settleFuel (threads ++ fresh) [] []
  let best := standing.matched.or best
  match text with
  | [] => best
  | c :: rest => scan name a best (standing.ready.filterMap (Thread.read? c)) (position + 1) (some c)
      rest

/-- The stretch that the group of this name matched in the first match of the pattern; nothing if
there is no match or the group took no part in it. -/
def captured? (a : Pattern) (name : String) (text : List Char) : Option (List Char) := do
  let t ← scan name a none [] 0 none text
  let (start, finish) ← t.captured
  some ((text.drop start).take (finish - start))

end LoginGate.Pattern
