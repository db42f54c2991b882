import ContractPress.Toml.Text
import ContractPress.Toml.Number
import ContractPress.Toml.Moment

/-!
Reading a TOML document: values, and the statements that set keys and open tables.
-/

namespace ContractPress.Toml

/-- Reads a comment, if one begins here. -/
def skipComment : Read Unit := do
  if ← skipIf "#" then modify (·.dropWhile isAllowed)

/-- Reads spaces, comments and line breaks. -/
def skipGap : Nat → Read Unit
  | 0 => pure ()
  | fuel + 1 => do
    skipSpaces
    skipComment
    match afterBreak? (← get) with
    | some rest =>
      set rest
      skipGap fuel
    | none => pure ()

def gap : Read Unit := do
  skipGap ((← get).length + 1)

/-- Reads what may stand at the end of a line, and the break. -/
def endLine : Read Unit := do
  skipSpaces
  skipComment
  match ← get with
  | [] => pure ()
  | rest => set (← afterBreak? rest)

/-- Characters of numbers and words. -/
def isWordChar (c : Char) : Bool :=
  isBareKeyChar c || c = '+' || c = '.'

/-- Reads a truth value, a number, a date or a time. -/
def word : Read Value := do
  let rest ← get
  match Moment.read? rest with
  | some (text, rest) =>
    set rest
    return .moment text
  | none =>
    let w := rest.takeWhile isWordChar
    set (rest.dropWhile isWordChar)
    if w = "true".toList then return .bool true
    if w = "false".toList then return .bool false
    match integer? w, float? w with
    | some n, _ => return .integer n
    | none, some x => return .float x
    | none, none => failure

/-- Sets a key of the table that the names before it lead to. -/
def assign (names : List String) (v : Value) : Draft.Table → Option Draft.Table :=
  match names.getLast? with
  | some name =>
    Draft.alter false (Draft.setKey (1 < names.length) name v) names.dropLast .ownHeader
  | none => fun _ => none

mutual

def value : Nat → Read Value
  | 0 => failure
  | fuel + 1 => do
    match ← peek with
    | some '"' => return .string (← quoted '"' true)
    | some '\'' => return .string (← quoted '\'' true)
    | some '[' =>
      expect "["
      gap
      return .array (← items fuel)
    | some '\x7b' =>
      expect "\x7b"
      gap
      return Draft.finish (.table .ownHeader (← inlineEntries fuel []))
    | _ => word

/-- Reads the values of an array up to its end. -/
def items : Nat → Read (List Value)
  | 0 => failure
  | fuel + 1 => do
    if ← skipIf "]" then return []
    let item ← value fuel
    gap
    if ← skipIf "," then
      gap
      return item :: (← items fuel)
    expect "]"
    return [item]

/-- Reads the entries of a table between braces up to its end. -/
def inlineEntries : Nat → Draft.Table → Read Draft.Table
  | 0, _ => failure
  | fuel + 1, entries => do
    if ← skipIf "\x7d" then return entries
    let names ← key
    expect "="
    skipSpaces
    let v ← value fuel
    let entries ← assign names v entries
    gap
    if ← skipIf "," then
      gap
      inlineEntries fuel entries
    else
      expect "\x7d"
      return entries

end

/-- A document so far: all its tables, and the names of the one that keys are set in. -/
structure Document where
  root : Draft.Table
  current : List String

namespace Document

/-- Reads the header of a table or of an element of an array. -/
def header (d : Document) : Read Document := do
  expect "["
  let element ← skipIf "["
  let names ← key
  expect (if element then "]]" else "]")
  match names.getLast? with
  | none => failure
  | some name =>
    let change := if element then Draft.openElement name else Draft.openTable name
    return ⟨← Draft.alter true change names.dropLast .ownHeader d.root, names⟩

/-- Reads a key and its value. -/
def setting (d : Document) : Read Document := do
  let names ← key
  expect "="
  skipSpaces
  let v ← value ((← get).length + 1)
  return { d with root := ← Draft.alter true (fun _ => assign names v) d.current .ownHeader d.root }

def statements : Nat → Document → Read Document
  | 0, _ => failure
  | fuel + 1, d => do
    gap
    match ← peek with
    | none => return d
    | some '[' =>
      let d ← header d
      endLine
      statements fuel d
    | some _ =>
      let d ← setting d
      endLine
      statements fuel d

end Document

/-- The table that a text describes. -/
def read? (text : String) : Option Value := do
  let cs := match text.toList with
    | '\uFEFF' :: rest => rest
    | cs => cs
  let (d, _) ← (Document.statements (cs.length + 1) ⟨[], []⟩).run cs
  return Draft.finish (.table .ownHeader d.root)

end ContractPress.Toml
