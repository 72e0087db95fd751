import LoginGate.CommandLine.Surroundings
import LoginGate.Text.Pieces

/-!
# A directory as surroundings

A `Directory` is a value: what stands at the paths below a working directory.  `place` follows a
path through it, `read` gives the text of a file, and `write` changes the one file that its path
leads to: `put` gives a file its text (`at?_put_self`) and keeps all else (`at?_put_of_ne`).
Nothing is known about what lies above the directory or elsewhere, but for the device that swallows
everything.
-/

namespace LoginGate.CommandLine

open LoginGate.Text

/-- The names that lead from the working directory to a file. -/
abbrev Path := List String

inductive Content where
  | text (content : String)
  /-- Nothing that can be read as a text. -/
  | unreadable (fault : FileFault)
  deriving DecidableEq, Repr

inductive Entry where
  | file (content : Content)
  /-- A directory, be it empty. -/
  | folder
  deriving DecidableEq, Repr

instance : Coe String Entry := ⟨fun text => .file (.text text)⟩

/-- What stands at which path.  A path on the way to another one is a directory, too. -/
structure Directory where
  entries : List (Path × Entry) := []
  deriving DecidableEq, Repr

/-- What a path leads to. -/
inductive Place where
  /-- A directory at or below the working directory. -/
  | directory (path : Path)
  | file (path : Path) (content : Content)
  /-- A name that is free. -/
  | vacant (path : Path)
  /-- A directory that is not below the working directory. -/
  | outside
  /-- The device that reads as empty and keeps nothing. -/
  | sink
  deriving DecidableEq, Repr

namespace Directory

/-- The entries with a text in the file at a path, be it a new file. -/
def putFile (path : Path) (text : String) : List (Path × Entry) → List (Path × Entry)
  | [] => [(path, text)]
  | entry :: entries =>
    if entry.1 = path then (path, text) :: entries else entry :: putFile path text entries

def put (d : Directory) (path : Path) (text : String) : Directory :=
  ⟨putFile path text d.entries⟩

def at? (d : Directory) (path : Path) : Option Entry := d.entries.lookup path

def text? (d : Directory) (path : Path) : Option String :=
  match d.at? path with
  | some (.file (.text text)) => some text
  | _ => none

def files (d : Directory) : List (Path × String) :=
  d.entries.filterMap fun entry => match entry.2 with
    | .file (.text text) => some (entry.1, text)
    | _ => none

def find (d : Directory) (path : Path) : Place :=
  match d.at? path with
  | some (.file content) => .file path content
  | some .folder => .directory path
  | none =>
    if d.entries.any fun entry => path.isPrefixOf entry.1 then .directory path else .vacant path

/-- The longest name that a file may have, in bytes. -/
def nameLimit : Nat := 255

/-- The longest path, in bytes. -/
def pathLimit : Nat := 4095

/-- One more name of a path. -/
def enter (d : Directory) : Place → String → Except FileFault Place
  | .directory path, name =>
    if name = "" ∨ name = "." then .ok (.directory path)
    else if name = ".." then .ok (if path = [] then .outside else .directory path.dropLast)
    else if nameLimit < name.utf8ByteSize then .error .nameTooLong
    else .ok (d.find (path ++ [name]))
  | .outside, name =>
    if name = "" ∨ name = "." ∨ name = ".." then .ok .outside else .error .notFound
  | .vacant _, _ => .error .notFound
  | _, _ => .error .notADirectory

/-- The path of the device that swallows everything. -/
def sinkPath : String := "/dev/null"

/-- What a path leads to. -/
def place (d : Directory) (path : String) : Except FileFault Place :=
  if path = "" then .error .notFound
  else if path = sinkPath then .ok .sink
  else if pathLimit < path.utf8ByteSize then .error .nameTooLong
  else match (pieces '/' path.toList).map String.ofList with
    | "" :: names => names.foldlM d.enter .outside
    | names => names.foldlM d.enter (.directory [])

def read (d : Directory) (path : String) : Except FileFault String := do
  match ← d.place path with
  | .file _ (.text text) => return text
  | .file _ (.unreadable fault) => throw fault
  | .sink => return ""
  | .vacant _ => throw .notFound
  | _ => throw .isADirectory

/-- The directory with a text in the file that a path leads to.  A path that ends in a slash is
none of a file.

A write is taken to fail only when its file cannot be opened: a file that is opened takes the whole
text.  An absolute path, but for the device that swallows everything, and a path that climbs above
the working directory are not followed, and no file is found there. -/
def write (d : Directory) (path text : String) : Except FileFault Directory := do
  let withoutSlashes := String.ofList (dropEndWhile (· == '/') path.toList)
  match ← d.place (if withoutSlashes = "" then path else withoutSlashes) with
  | .sink => if withoutSlashes = path then return d else throw .isADirectory
  | .file place _ | .vacant place =>
    if withoutSlashes = path then return d.put place text else throw .isADirectory
  | _ => throw .isADirectory

def isPresent (d : Directory) (path : String) : Bool :=
  match d.place path with
  | .ok (.vacant _) => false
  | .ok _ => true
  | .error _ => false

def isFile (d : Directory) (path : String) : Bool :=
  match d.place path with
  | .ok (.file _ _) => true
  | _ => false

/-- The directory as surroundings of a command, with an input that may not be a text. -/
def surroundingsWith (input : Except FileFault String) (environment : Settings.Environment)
    (respond : String → Identity.Response) : Surroundings (StateM Directory) where
  isPresent path d := (d.isPresent path, d)
  isFile path d := (d.isFile path, d)
  read path d := (d.read path, d)
  write path text d :=
    match d.write path text with
    | .ok d' => (.ok (), d')
    | .error fault => (.error fault, d)
  input d := (input, d)
  environment
  respond

def surroundings (input : String) (environment : Settings.Environment)
    (respond : String → Identity.Response) : Surroundings (StateM Directory) :=
  surroundingsWith (.ok input) environment respond

/-! ## What a write changes -/

theorem lookup_putFile_self (path : Path) (text : String) (entries : List (Path × Entry)) :
    (putFile path text entries).lookup path = some (text : Entry) := by
  induction entries with
  | nil => simp [putFile]
  | cons entry entries ih =>
    rw [putFile]
    split
    · simp
    · rename_i h
      rw [List.lookup_cons, ih]
      have : (path == entry.1) = false := by simpa using fun h' => h h'.symm
      rw [this]

theorem lookup_putFile_of_ne {path other : Path} (h : other ≠ path) (text : String)
    (entries : List (Path × Entry)) :
    (putFile path text entries).lookup other = entries.lookup other := by
  have hne : (other == path) = false := by simpa using h
  induction entries with
  | nil => simp [putFile, List.lookup_cons, hne]
  | cons entry entries ih =>
    rw [putFile]
    split
    · rename_i he
      obtain ⟨name, content⟩ := entry
      subst he
      simp [List.lookup_cons, hne]
    · rw [List.lookup_cons, List.lookup_cons, ih]

@[simp] theorem at?_put_self (d : Directory) (path : Path) (text : String) :
    (d.put path text).at? path = some (text : Entry) := lookup_putFile_self path text d.entries

theorem at?_put_of_ne {path other : Path} (h : other ≠ path) (d : Directory) (text : String) :
    (d.put path text).at? other = d.at? other := lookup_putFile_of_ne h text d.entries

/-- No path is lost. -/
theorem exists_mem_putFile {path : Path} {text : String} {entries : List (Path × Entry)}
    {entry : Path × Entry} (h : entry ∈ entries) :
    ∃ other ∈ putFile path text entries, other.1 = entry.1 := by
  induction entries with
  | nil => cases h
  | cons first entries ih =>
    rw [putFile]
    split
    · rename_i hf
      rcases List.mem_cons.1 h with rfl | h
      · exact ⟨(path, text), List.mem_cons_self, hf.symm⟩
      · exact ⟨entry, List.mem_cons_of_mem _ h, rfl⟩
    · rcases List.mem_cons.1 h with rfl | h
      · exact ⟨entry, List.mem_cons_self, rfl⟩
      · obtain ⟨other, hmem, heq⟩ := ih h
        exact ⟨other, List.mem_cons_of_mem _ hmem, heq⟩

end Directory

end LoginGate.CommandLine
