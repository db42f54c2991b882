import ContractPress.Text.Split

/-!
Paths as texts: parts between slashes.

A path that starts with a slash is absolute. Empty parts and single dots do not count, except for a
dot at the very beginning. Normalising lets every `..` cancel the name before it.
-/

namespace ContractPress.Path

inductive Segment where
  /-- The slash at the beginning of an absolute path. -/
  | root
  /-- A single dot at the beginning of a relative path. -/
  | here
  | up
  | name (text : String)
deriving Repr, DecidableEq

/-- What stands between slashes. -/
def parts (cs : List Char) : List (List Char) :=
  Text.split '/' cs

def Segment.ofPart? (part : List Char) : Option Segment :=
  if part = [] || part = ['.'] then none
  else if part = ['.', '.'] then some .up
  else some (.name (String.ofList part))

def isAbsolute (path : String) : Bool :=
  path.toList.head? = some '/'

/-- The segments of a path, from left to right. -/
def segments (path : String) : List Segment :=
  let ps := parts path.toList
  let rest := ps.filterMap Segment.ofPart?
  if isAbsolute path then .root :: rest
  else if ps.head? = some ['.'] then .here :: rest
  else rest

def Segment.text : Segment → String
  | .root => ""
  | .here => "."
  | .up => ".."
  | .name text => text

/-- Writes segments with slashes between them. -/
def ofSegments : List Segment → String
  | [.root] => "/"
  | ss => "/".intercalate (ss.map Segment.text)

/-- Continues a path by another one, which stands alone if it is absolute. -/
def join (base path : String) : String :=
  if isAbsolute path then path
  else if base = "" || base.toList.getLast? = some '/' then base ++ path
  else base ++ "/" ++ path

/-- The path without its last segment; nothing is above a root or an empty path. -/
def parent? (path : String) : Option String :=
  match (segments path).reverse with
  | [] | .root :: _ => none
  | _ :: rest => some (ofSegments rest.reverse)

/-- The last segment, if it is a name. -/
def fileName? (path : String) : Option String :=
  match (segments path).getLast? with
  | some (.name text) => some text
  | _ => none

/-- What follows the last dot of the file name, if something stands before that dot. -/
def extension? (path : String) : Option String :=
  match fileName? path with
  | some file =>
    let ending := file.toList.reverse.takeWhile (· ≠ '.')
    match file.toList.reverse.drop ending.length with
    | _ :: _ :: _ => some (String.ofList ending.reverse)
    | _ => none
  | none => none

/-- Adds a segment to those already walked, the last one first. -/
def walk (walked : List Segment) : Segment → List Segment
  | .here => walked
  | .up => match walked with
    | .name _ :: rest => rest
    | _ => .up :: walked
  | s => s :: walked

/-- Drops dots and lets each `..` cancel the name before it; it stays where there is none. -/
def normalise (ss : List Segment) : List Segment :=
  (ss.foldl walk []).reverse

/-- Whether a path is absolute or begins by climbing. -/
def escapesRoot (path : String) : Bool :=
  match segments path with
  | .root :: _ | .up :: _ => true
  | _ => false

end ContractPress.Path
