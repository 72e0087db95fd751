import LoginGate.Text.Blank

/-!
# Texts with open places

A template names its open places in double braces.  `fill` puts the values in from left to right,
and never looks into a value that it has put in.
-/

namespace LoginGate.Text

/-- The parts before and after the first two neighbours `mark mark`. -/
def cutAtPair? (mark : Char) : List Char → Option (List Char × List Char)
  | [] => none
  | [_] => none
  | a :: b :: rest =>
    if a = mark ∧ b = mark then some ([], rest)
    else (cutAtPair? mark (b :: rest)).map fun cut => (a :: cut.1, cut.2)

theorem length_of_cutAtPair? {mark : Char} {s before after : List Char}
    (h : cutAtPair? mark s = some (before, after)) : after.length < s.length := by
  fun_induction cutAtPair? mark s generalizing before after with
  | case1 => simp at h
  | case2 => simp at h
  | case3 a b rest _ =>
    simp only [Option.some.injEq, Prod.mk.injEq] at h
    simp only [← h.2, List.length_cons]
    omega
  | case4 a b rest _ ih =>
    obtain ⟨cut, hc, heq⟩ := Option.map_eq_some_iff.1 h
    simp only [Prod.mk.injEq] at heq
    have := @ih cut.1 cut.2 hc
    simp only [← heq.2]
    simp only [List.length_cons] at this ⊢
    omega

inductive TemplateFault where
  | unterminated
  | unknownPlace (name : String)
  deriving DecidableEq, Repr

def TemplateFault.message : TemplateFault → String
  | unterminated => "unterminated placeholder in script template"
  | unknownPlace name => "unknown placeholder `" ++ name ++ "` in script template"

def fillChars (value? : List Char → Option (List Char)) (s : List Char) :
    Except TemplateFault (List Char) :=
  match _cut : cutAtPair? '{' s with
  | none => .ok s
  | some (before, after) =>
    match _end : cutAtPair? '}' after with
    | none => .error .unterminated
    | some (name, rest) =>
      match value? (trimChars name) with
      | none => .error (.unknownPlace (String.ofList (trimChars name)))
      | some value => do
        let filled ← fillChars value? rest
        return before ++ value ++ filled
termination_by s.length
decreasing_by
  have := length_of_cutAtPair? _cut
  have := length_of_cutAtPair? _end
  omega

/-- The text with a value in each open place. -/
def fill (value? : String → Option String) (s : String) : Except TemplateFault String :=
  (fillChars (fun name => (value? (String.ofList name)).map String.toList) s.toList).map
    String.ofList

end LoginGate.Text
