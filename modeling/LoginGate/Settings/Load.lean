import LoginGate.Settings.Check
import LoginGate.Settings.Environment
import LoginGate.Settings.Reading
import LoginGate.Toml.Reader

/-!
# Loading settings

The defaults come first, then what a file says, then what the environment says.
-/

namespace LoginGate.Settings

/-- The tree of a file and the environment. -/
def sources (members : List (String × Toml.Value)) (environment : Environment) : Tree :=
  ((Tree.table []).setAll (membersOf members)).setAll (overrides environment)

/-- The settings of a file, if there is one, and the environment. -/
def load (file : Option String) (environment : Environment) : Except SettingsFault Settings := do
  let members ← match file with
    | none => pure []
    | some text => match Toml.read? text with
      | some members => pure members
      | none => throw .unreadable
  match (sources members environment).asSettings? with
  | none => throw .unreadable
  | some settings => do
    settings.check
    return settings

end LoginGate.Settings
