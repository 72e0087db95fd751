import LoginGate.Url.Address
import LoginGate.Url.Domain

/-!
# Absolute URLs

`Url.ofText?` reads the scheme, the host and the port of a URL that has all that it takes to
connect: a scheme and a host.  Texts are read as browsers read them: blanks at the ends and line
breaks and tabs anywhere are skipped, and behind a scheme of the web any number of slashes and
backslashes leads to the host.  The path and what follows it cannot be wrong, so they are not read.
-/

namespace LoginGate

open LoginGate.Text

inductive Url.Host where
  | domain (name : List Char)
  | ipv4 (address : Nat)
  | ipv6 (pieces : List Nat)
  deriving DecidableEq, Repr, Inhabited

/-- A URL with a host: its scheme, the host, and the port that it spells out. -/
structure Url where
  scheme : List Char
  host : Url.Host
  port : Option Nat
  deriving DecidableEq, Repr, Inhabited

namespace Url

/-! ## Schemes -/

def defaultPort? (scheme : List Char) : Option Nat :=
  if scheme = "http".toList ∨ scheme = "ws".toList then some 80
  else if scheme = "https".toList ∨ scheme = "wss".toList then some 443
  else if scheme = "ftp".toList then some 21
  else none

/-- Schemes of the web have a default port. -/
def isWebScheme (scheme : List Char) : Bool := (defaultPort? scheme).isSome

/-- The scheme of files, whose hosts are read like those of the web. -/
def fileScheme : List Char := "file".toList

def isLetter (c : Char) : Bool :=
  (65 ≤ c.toNat && c.toNat ≤ 90) || (97 ≤ c.toNat && c.toNat ≤ 122)

def isSchemeChar (c : Char) : Bool := isLetter c || isDigit c || c = '+' || c = '-' || c = '.'

/-- The scheme in small letters, and what is behind its colon. -/
def cutScheme? (s : List Char) : Option (List Char × List Char) :=
  match s.takeWhile isSchemeChar, s.dropWhile isSchemeChar with
  | c :: scheme, ':' :: rest => if isLetter c then some (lowerAscii (c :: scheme), rest) else none
  | _, _ => none

/-! ## Hosts -/

/-- The byte that an escape writes. -/
def escaped? : List Char → Option (Nat × List Char)
  | '%' :: a :: b :: rest => do some ((← hexValue? a) * 16 + (← hexValue? b), rest)
  | _ => none

/-- The bytes of a text with its escapes undone; `skip` characters belong to an escape before. -/
def unescape : Nat → List Char → List UInt8
  | _, [] => []
  | skip + 1, _ :: rest => unescape skip rest
  | 0, c :: rest =>
    match escaped? (c :: rest) with
    | some (byte, _) => byte.toUInt8 :: unescape 2 rest
    | none => String.utf8EncodeChar c ++ unescape 0 rest

/-- A text with its escapes undone, if that is a text. -/
def unescaped? (s : List Char) : Option (List Char) :=
  (String.fromUTF8? ⟨(unescape 0 s).toArray⟩).map String.toList

/-- The characters that no host holds. -/
def isForbidden (c : Char) : Bool :=
  c.toNat = 0 || c = '\t' || c = '\n' || c = '\r' || " #/:<>?@[\\]^|".toList.contains c

/-- The characters that no domain name holds. -/
def isForbiddenInDomain (c : Char) : Bool :=
  isForbidden c || c.toNat < 0x20 || c = '%' || c.toNat = 0x7F

def bracketedHost? (s : List Char) : Option Host := do
  let inner ← dropSuffix? [']'] s
  (ipv6? inner).map .ipv6

/-- A host of the web: an address, or a domain name in ASCII. -/
def webHost? (s : List Char) : Option Host :=
  match s with
  | '[' :: rest => bracketedHost? rest
  | s => do
    let name ← toAscii? (← unescaped? s)
    if name.isEmpty || name.any isForbiddenInDomain then none
    else if endsInNumber name then (ipv4? name).map .ipv4
    else some (.domain name)

def escapeByte (b : UInt8) : List Char :=
  ['%', hexDigitUpper (b.toNat / 16), hexDigitUpper (b.toNat % 16)]

/-- A character of a host that is no domain name: controls and characters beyond ASCII are
escaped. -/
def escapeHostChar (c : Char) : List Char :=
  if c.toNat < 0x20 ∨ 0x7F ≤ c.toNat then (String.utf8EncodeChar c).flatMap escapeByte else [c]

/-- Any other host: an address in brackets, or a name that is kept as it is. -/
def otherHost? (s : List Char) : Option Host :=
  match s with
  | '[' :: rest => bracketedHost? rest
  | [] => none
  | s => if s.any isForbidden then none else some (.domain (s.flatMap escapeHostChar))

/-! ## Authorities -/

/-- Does the character end the authority? -/
def endsAuthority (web : Bool) (c : Char) : Bool :=
  c = '/' || c = '?' || c = '#' || (web && c = '\\')

/-- What is behind the last `@`. -/
def afterCredentials (s : List Char) : List Char :=
  match cutLast? '@' s with
  | some (_, rest) => rest
  | none => s

/-- The host, and what is behind it from its colon on; colons between brackets belong to the host.
-/
def cutHost (inBrackets : Bool) : List Char → List Char × List Char
  | [] => ([], [])
  | c :: rest =>
    if c = ':' && !inBrackets then ([], c :: rest)
    else
      let open_ := if c = '[' then true else if c = ']' then false else inBrackets
      let (host, tail) := cutHost open_ rest
      (c :: host, tail)

def maxPort : Nat := 65535

/-- The port behind a host; a colon alone spells out none. -/
def port? : List Char → Option (Option Nat)
  | ':' :: digits =>
    let digits := digits.takeWhile (· != '\\')
    if digits.isEmpty then some none
    else ((decimalValue? digits).filter (· ≤ maxPort)).map some
  | _ => some none

/-- The URL whose authority starts here. -/
def ofAuthority? (scheme : List Char) (s : List Char) : Option Url := do
  let web := isWebScheme scheme
  let authority := s.takeWhile fun c => !endsAuthority web c
  let (host, tail) := cutHost false (afterCredentials authority)
  let host ← if web then webHost? host else otherHost? host
  some ⟨scheme, host, ← port? tail⟩

/-! ## Files -/

def isSlash (c : Char) : Bool := c = '/' || c = '\\'

/-- The letter of a drive with a colon or a bar. -/
def isDrive : List Char → Bool
  | [c, x] => isLetter c && (x = ':' || x = '|')
  | _ => false

/-- A segment that stands for its own directory. -/
def isSingleDot (s : List Char) : Bool := s = ['.'] || lowerAscii s = "%2e".toList

/-- A segment that stands for the directory above. -/
def isDoubleDot (s : List Char) : Bool :=
  s = ['.', '.'] || ["%2e.".toList, ".%2e".toList, "%2e%2e".toList].contains (lowerAscii s)

/-- Is the first segment of a path a drive, segments that stand for directories apart?  `depth`
counts the segments before. -/
def leadsToDrive : Nat → List (List Char) → Bool
  | _, [] => false
  | depth, s :: rest =>
    if isDoubleDot s then leadsToDrive (depth - 1) rest
    else if isSingleDot s then leadsToDrive depth rest
    else if depth = 0 ∧ isDrive s then true
    else leadsToDrive (depth + 1) rest

/-- The URL of a file on another host: none for this one, and none where a drive is named. -/
def ofFile? (s : List Char) : Option Url :=
  match s with
  | a :: b :: rest =>
    if isSlash a && isSlash b then do
      let host := rest.takeWhile fun c => !endsAuthority true c
      let path := (rest.dropWhile fun c => !endsAuthority true c).takeWhile fun c =>
        c ≠ '?' && c ≠ '#'
      let segments := pieces '/' (path.map fun c => if isSlash c then '/' else c)
      if host.isEmpty || isDrive host || leadsToDrive 0 (segments.drop 1) then none
      let host ← webHost? host
      if host = .domain "localhost".toList then none
      some ⟨fileScheme, host, none⟩
    else none
  | _ => none

/-! ## Texts -/

/-- Characters that are skipped wherever they stand. -/
def isSkipped (c : Char) : Bool := c = '\t' || c = '\n' || c = '\r'

/-- A text without the characters that are not read. -/
def cleaned (s : List Char) : List Char :=
  (stripWhile (fun c => c.toNat ≤ 0x20) s).filter fun c => !isSkipped c

/-- The URL that a text writes, if it has a scheme and a host. -/
def ofChars? (s : List Char) : Option Url := do
  let (scheme, rest) ← cutScheme? (cleaned s)
  if scheme = fileScheme then ofFile? rest
  else if isWebScheme scheme then ofAuthority? scheme (rest.dropWhile isSlash)
  else match rest with
    | '/' :: '/' :: rest => ofAuthority? scheme rest
    | _ => none

/-- The host as a text, without brackets. -/
def Host.text : Host → List Char
  | domain name => name
  | ipv4 address => ipv4Text address
  | ipv6 pieces => ipv6Text pieces

/-- The port that is spelled out, unless it is the default one of the scheme. -/
def unusualPort? (u : Url) : Option Nat := u.port.filter fun p => some p ≠ defaultPort? u.scheme

end Url

end LoginGate
