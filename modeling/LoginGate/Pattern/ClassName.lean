import LoginGate.Pattern.Flags
import LoginGate.Text.Pieces

/-!
# Names of sets of characters

Sets have names of three kinds: the single letters `d`, `s` and `w`, the names between colons in a
bracket, such as `alpha`, and the names of general categories, scripts and other properties.  In the
last, case, spaces, hyphens and underscores do not count, and a leading `is` is dropped.
-/

namespace LoginGate.Pattern

open LoginGate.Text

/-- The set of a letter: decimal digits, blank characters, or word characters. -/
def letterClass (unicode : Bool) (letter : Char) : Option CharSet :=
  match letter, unicode with
  | 'd', true => some (.property (.categories ["Nd"]))
  | 's', true => some (.property .blank)
  | 'w', true => some (.property .word)
  | 'd', false => some .asciiDigits
  | 's', false => some .asciiBlank
  | 'w', false => some .asciiWord
  | _, _ => none

def asciiClass? (name : String) : Option CharSet :=
  match name with
  | "alnum" => some (.union .asciiLetters .asciiDigits)
  | "alpha" => some .asciiLetters
  | "ascii" => some (.range '\x00' '\x7F')
  | "blank" => some (.union (.single '\t') (.single ' '))
  | "cntrl" => some (.union (.range '\x00' '\x1F') (.single '\x7F'))
  | "digit" => some .asciiDigits
  | "graph" => some (.range '!' '~')
  | "lower" => some (.range 'a' 'z')
  | "print" => some (.range ' ' '~')
  | "punct" => some (.unions [.range '!' '/', .range ':' '@', .range '[' '\x60', .range '\x7B' '~'])
  | "space" => some .asciiBlank
  | "upper" => some (.range 'A' 'Z')
  | "word" => some .asciiWord
  | "xdigit" => some (.unions [.asciiDigits, .range 'A' 'F', .range 'a' 'f'])
  | _ => none

/-- General categories and groups of them under all their names. -/
def categoryNames : List (List String × List String) := [
  (["c", "other"], ["Cc", "Cf", "Co", "Cn"]),
  (["cc", "cntrl", "control"], ["Cc"]),
  (["cf", "format"], ["Cf"]),
  (["cn", "unassigned"], ["Cn"]),
  (["co", "privateuse"], ["Co"]),
  (["l", "letter"], ["Lu", "Ll", "Lt", "Lm", "Lo"]),
  (["lc", "casedletter"], ["Lu", "Ll", "Lt"]),
  (["ll", "lowercaseletter"], ["Ll"]),
  (["lm", "modifierletter"], ["Lm"]),
  (["lo", "otherletter"], ["Lo"]),
  (["lt", "titlecaseletter"], ["Lt"]),
  (["lu", "uppercaseletter"], ["Lu"]),
  (["m", "mark", "combiningmark"], ["Mn", "Mc", "Me"]),
  (["mc", "spacingmark"], ["Mc"]),
  (["me", "enclosingmark"], ["Me"]),
  (["mn", "nonspacingmark"], ["Mn"]),
  (["n", "number"], ["Nd", "Nl", "No"]),
  (["nd", "decimalnumber", "digit"], ["Nd"]),
  (["nl", "letternumber"], ["Nl"]),
  (["no", "othernumber"], ["No"]),
  (["p", "punctuation", "punct"], ["Pc", "Pd", "Ps", "Pe", "Pi", "Pf", "Po"]),
  (["pc", "connectorpunctuation"], ["Pc"]),
  (["pd", "dashpunctuation"], ["Pd"]),
  (["pe", "closepunctuation"], ["Pe"]),
  (["pf", "finalpunctuation"], ["Pf"]),
  (["pi", "initialpunctuation"], ["Pi"]),
  (["po", "otherpunctuation"], ["Po"]),
  (["ps", "openpunctuation"], ["Ps"]),
  (["s", "symbol"], ["Sm", "Sc", "Sk", "So"]),
  (["sc", "currencysymbol"], ["Sc"]),
  (["sk", "modifiersymbol"], ["Sk"]),
  (["sm", "mathsymbol"], ["Sm"]),
  (["so", "othersymbol"], ["So"]),
  (["z", "separator"], ["Zs", "Zl", "Zp"]),
  (["zl", "lineseparator"], ["Zl"]),
  (["zp", "paragraphseparator"], ["Zp"]),
  (["zs", "spaceseparator"], ["Zs"])]

def categoryClass? (name : String) : Option CharSet :=
  match name with
  | "any" => some .all
  | "ascii" => some (.range '\x00' '\x7F')
  | "assigned" => some (.complement (.property (.categories ["Cn"])))
  | _ => (categoryNames.find? fun entry => entry.1.contains name).map fun entry =>
      .property (.categories entry.2)

def scriptClass? (name : String) : Option CharSet :=
  (scriptTables.find? fun entry => (pieces ' ' entry.1.toList).contains name.toList).map
    fun entry => .property (.script entry.1)

def propertyClass? (name : String) : Option CharSet :=
  match name with
  | "alphabetic" | "alpha" => some (.property .alphabetic)
  | "uppercase" | "upper" => some (.property .uppercase)
  | "lowercase" | "lower" => some (.property .lowercase)
  | "whitespace" | "wspace" | "space" => some (.property .blank)
  | "emoji" => some (.property .emoji)
  | "asciihexdigit" | "ahex" => asciiClass? "xdigit"
  | _ => none

/-- A name without what does not count in it. -/
def plainName (name : List Char) : String :=
  let counts := fun (c : Char) => c.toNat < 128 && c != ' ' && c != '_' && c != '-'
  let lead := (name.take 2).map Char.toLower = ['i', 's']
  let rest := ((if lead then name.drop 2 else name).filter counts).map Char.toLower
  String.ofList (if lead ∧ rest = ['c'] then ['i', 's', 'c'] else rest)

/-- The set that a name without a value names: a property, a category or a script. -/
def namedClass? (name : List Char) : Option CharSet :=
  let name := plainName name
  (propertyClass? name).or ((categoryClass? name).or (scriptClass? name))

/-- The set that a property and its value name. -/
def valueClass? (property value : List Char) : Option CharSet :=
  let value := plainName value
  match plainName property with
  | "gc" | "generalcategory" => categoryClass? value
  | "sc" | "script" => scriptClass? value
  | _ => none

/-- The parts of a text before and after the first occurrence of `sep`. -/
def cutAt? (sep : List Char) : List Char → Option (List Char × List Char)
  | [] => none
  | c :: rest =>
    match dropPrefix? sep (c :: rest) with
    | some after => some ([], after)
    | none => (cutAt? sep rest).map fun (before, after) => (c :: before, after)

/-- The set that the text between braces names; a value follows `!=`, `:` or `=`. -/
def braceClass? (text : List Char) : Option CharSet :=
  match (cutAt? ['!', '='] text).or ((cutAt? [':'] text).or (cutAt? ['='] text)) with
  | some (property, value) => valueClass? property value
  | none => namedClass? text

end LoginGate.Pattern
