import LoginGate.Number.Reading
import LoginGate.Settings.Tree
import LoginGate.Text.Pieces

/-!
# Settings in the environment

A variable `AUTHGEN__SECTION__KEY`, in any case, gives a value for a setting.  What looks like a
truth value or a number is taken as one.
-/

namespace LoginGate.Settings

open LoginGate.Text LoginGate.Number

/-- Names and values of environment variables. -/
abbrev Environment := List (String × String)

/-- What the names of the variables begin with, in small letters. -/
def variablePrefix : List Char := "authgen__".toList

/-- A letter of a name in small form; the Kelvin sign is a capital K. -/
def lowerLetter (c : Char) : Char := if c = '\u212A' then 'k' else lowerChar c

/-- A text with a dot for every two underscores, from left to right. -/
def dotted : List Char → List Char
  | '_' :: '_' :: rest => '.' :: dotted rest
  | c :: rest => c :: dotted rest
  | [] => []

/-- The name of the setting that a variable is about. -/
def settingName? (variable_ : String) : Option String :=
  (dropPrefix? variablePrefix (variable_.toList.map lowerLetter)).map fun rest =>
    String.ofList (dotted rest)

/-- The whole number of 64 bits that a text writes. -/
def whole? (s : List Char) : Option Int := do
  let (negative, digits) := signed s
  let n ← decimalValue? digits
  let z : Int := if negative then -n else n
  if isSigned 64 z then some z else none

/-- The value that the text of a variable stands for. -/
def Tree.ofVariable (value : String) : Tree :=
  let s := value.toList
  let word := lowerAscii s
  if word = "true".toList then .flag true
  else if word = "false".toList then .flag false
  else match whole? s with
    | some z => .whole z
    | none => match readDecimal? s with
      | some x => .real x
      | none => .text value

/-- What the environment says about settings. -/
def overrides (environment : Environment) : List (String × Tree) :=
  environment.filterMap fun (name, value) =>
    (settingName? name).map fun setting => (setting, .ofVariable value)

end LoginGate.Settings
