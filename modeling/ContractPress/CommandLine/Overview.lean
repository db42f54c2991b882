import ContractPress.Contract.Reader
import ContractPress.Contract.DefinitionIndex
import ContractPress.Contract.RouteGroup

/-!
The overview of a contract: its definitions and its groups, for a reader at a terminal.
-/

namespace ContractPress

namespace Overview

def definitionLines (index : DefinitionIndex) : List String :=
  ("definitions (" ++ toString index.size ++ "):") :: index.keys.map ("  " ++ ·)

def groupLines (groups : RouteGroups) : List String :=
  groups.entries.flatMap fun e =>
    ("  " ++ e.1) :: e.2.map fun op => "    " ++ op.verb ++ " " ++ op.path.path

def lines (index : DefinitionIndex) (field : String) (groups : RouteGroups) : List String :=
  definitionLines index ++
    ("groups by " ++ field ++ " (" ++ toString groups.size ++ "):") :: groupLines groups

/-- The lines, each ended by a line feed. -/
def text (lines : List String) : String :=
  String.join (lines.map (· ++ "\n"))

end Overview

/-- The overview of the contract that a text holds. -/
def overview (text field : String) (verbs : List String) : Traced String := do
  let c ← .ofResult (Contract.parse text)
  .note (.parsedContract c.paths.size c.definitions.size)
  (DefinitionIndex.events c).forM .note
  let groups ← RouteGroups.traced c field verbs
  return Overview.text (Overview.lines (.ofContract c) field groups)

end ContractPress
