import LoginGate.Yaml.Folding

/-!
# Plain scalars

A plain scalar is words and the folded gaps between them.  It ends before a colon with a gap behind
it, before a comment, before a line that is not indented enough, and between brackets also before a
comma or a bracket.
-/

namespace LoginGate.Yaml

/-- Does a gap or the end come first? -/
def startsWithGap : List Char → Bool
  | x :: _ => isGap x
  | [] => true

/-- The next word, empty if there is none.  Between brackets (`flow`), a colon right before a
question mark, a comma or a bracket is a fault. -/
def plainWord? (flow : Bool) : List Char → Option (List Char)
  | [] => some []
  | x :: rest =>
    if isGap x then some []
    else if flow && x = ':' && rest.head?.any (fun y => y = '?' || isFlowMark y) then none
    else if (x = ':' && startsWithGap rest) || (flow && isFlowMark x) then some []
    else (plainWord? flow rest).map (x :: ·)

/-- A plain scalar, what is behind it and behind the gap that follows it, and whether that gap has a
line break. -/
structure PlainScalar where
  text : List Char
  behind : Cursor
  broken : Bool

/-- The scalar from the cursor on; `read` holds what was read, `gap` what stands between it and the
cursor. -/
def plainFrom? (flow : Bool) (indent : Nat) :
    Nat → List Char → Gap → Cursor → Option PlainScalar
  | 0, _, _, _ => none
  | fuel + 1, read, gap, c =>
    if c.atDocumentMark || c.startsWith '#' then some ⟨read, c, gap.broken⟩
    else do
      let word ← plainWord? flow c.rest
      if word.isEmpty then some ⟨read, c, gap.broken⟩
      else
        let read := read ++ gap.text ++ word
        let c := c.skip word.length
        if c.sees isGap then
          let (gap, behind) ← c.takeGap? indent
          if !flow && behind.column < indent then some ⟨read, behind, gap.broken⟩
          else plainFrom? flow indent fuel read gap behind
        else some ⟨read, c, false⟩

/-- The plain scalar at the cursor; its lines are indented by at least `indent`. -/
def Cursor.plainScalar? (c : Cursor) (flow : Bool) (indent : Nat) : Option PlainScalar :=
  plainFrom? flow indent (c.rest.length + 1) [] {} c

end LoginGate.Yaml
