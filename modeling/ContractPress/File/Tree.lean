import ContractPress.File.Access
import ContractPress.Text.Utf8

/-!
Trees of files and directories, without links.

A path is followed from name to name. Every name but the last must be that of a directory, also
where the next step leads up again, and after a slash at the end the last one as well.
-/

namespace ContractPress

/-- The names that lead from the top directory to a file or a directory. -/
abbrev Location := List String

inductive FileEntry where
  | directory
  | file (octets : List UInt8)
deriving Repr, DecidableEq

structure FileTree where
  /-- Where relative paths start. -/
  workingDirectory : Location
  /-- All there is but the top directory. -/
  entries : Entries Location FileEntry

namespace FileTree

/-- The greatest number of octets in a name. -/
def nameLimit : Nat := 255

/-- The number of octets that no path reaches. -/
def pathLimit : Nat := 4096

def entry? (t : FileTree) (place : Location) : Option FileEntry :=
  if place = [] then some .directory else t.entries.get? place

def isDirectory (t : FileTree) (place : Location) : Bool :=
  t.entry? place = some .directory

def insert (t : FileTree) (place : Location) (entry : FileEntry) : FileTree :=
  { t with entries := t.entries.insert place entry }

def fitsName (name : String) : Bool :=
  name.utf8ByteSize ≤ nameLimit

/-- Whether a path can be followed at all. -/
def isUsable (path : String) : Bool :=
  !path.toList.contains '\x00' && path.utf8ByteSize < pathLimit

/-- Where a path starts. -/
def start (t : FileTree) (path : String) : Location :=
  if Path.isAbsolute path then [] else t.workingDirectory

/-- Follows the parts of a path. -/
def follow (t : FileTree) : Location → List (List Char) → Option Location
  | place, [] => some place
  | place, part :: parts =>
    if !t.isDirectory place then none
    else if part = [] || part = ['.'] then follow t place parts
    else if part = ['.', '.'] then follow t place.dropLast parts
    else if fitsName (String.ofList part) then follow t (place ++ [String.ofList part]) parts
    else none

/-- The place that a path leads to, whether something is there or could be made there. -/
def locate? (t : FileTree) (path : String) : Option Location :=
  if path ≠ "" && isUsable path then t.follow (t.start path) (Path.parts path.toList) else none

/-- What a path leads to. -/
def find? (t : FileTree) (path : String) : Option FileEntry := do
  t.entry? (← t.locate? path)

def readText? (t : FileTree) (path : String) : Option String :=
  match t.find? path with
  | some (.file octets) => Text.ofUtf8? octets
  | _ => none

/-- Makes the directories that are missing on the way along the segments. -/
def createAlong : List Path.Segment → Location → FileTree → FileTree × Bool
  | [], _, t => (t, true)
  | .root :: rest, place, t | .here :: rest, place, t => createAlong rest place t
  | .up :: rest, place, t => createAlong rest place.dropLast t
  | .name text :: rest, place, t =>
    match t.entry? (place ++ [text]) with
    | some .directory => createAlong rest (place ++ [text]) t
    | some (.file _) => (t, false)
    | none =>
      if fitsName text then
        createAlong rest (place ++ [text]) (t.insert (place ++ [text]) .directory)
      else (t, false)

/-- Makes a directory and those above it, as far as they are missing. -/
def createDirectories (t : FileTree) (path : String) : FileTree × Bool :=
  if isUsable path then createAlong (Path.segments path) (t.start path) t else (t, false)

/-- Gives a file its octets, where there is no directory. -/
def write (t : FileTree) (path : String) (octets : List UInt8) : FileTree × Bool :=
  match t.locate? path with
  | some place => if t.isDirectory place then (t, false) else (t.insert place (.file octets), true)
  | none => (t, false)

/-- The files of a tree. -/
def access : FileAccess (StateM FileTree) where
  readText? path := do return (← get).readText? path
  occupied path := do return ((← get).find? path).isSome
  createDirectories path := modifyGet fun t =>
    ((t.createDirectories path).2, (t.createDirectories path).1)
  write path text := modifyGet fun t =>
    ((t.write path (Text.toUtf8 text)).2, (t.write path (Text.toUtf8 text)).1)

end FileTree

end ContractPress
