import ContractPress.Yaml.Token
import ContractPress.Entries

/-!
The tree that the tokens of a document form, and the tree without aliases.

Anchors are numbered as they are met, by how many different names have been anchored before. An
alias refers to the number that its name had last; of several nodes with one number it means the
last one.
-/

namespace ContractPress.Yaml

/-- A node as written. -/
inductive Tree where
  | alias (number : Nat)
  | scalar (anchor : Option Nat) (tag : Option String) (style : ScalarStyle) (text : String)
  | sequence (anchor : Option Nat) (tag : Option String) (items : List Tree)
  | mapping (anchor : Option Nat) (tag : Option String) (entries : List (Tree × Tree))

/-- A node in which every alias has been replaced by what it stands for. -/
inductive Node where
  | scalar (tag : Option String) (style : ScalarStyle) (text : String)
  | sequence (tag : Option String) (items : List Node)
  | mapping (tag : Option String) (entries : List (Node × Node))

namespace Tree

def empty : Tree :=
  .scalar none none .plain ""

/-- The tokens still to be read, and what has been declared. -/
structure Reader where
  tokens : List Token
  /-- The numbers of the anchored names. -/
  numbers : Entries String Nat
  /-- What the handles of tags stand for. -/
  handles : Entries String String

abbrev Read := StateT Reader (Except Fault)

def peek : Read (Option Token) := do
  return (← get).tokens.head?

def skip : Read Unit :=
  modify fun r => { r with tokens := r.tokens.tail }

def anchored (name : String) : Read Nat := do
  let r ← get
  let number := r.numbers.length
  set { r with numbers := r.numbers.insert name number }
  return number

def aliased (name : String) : Read Tree := do
  match (← get).numbers.get? name with
  | some number => return .alias number
  | none => throw .unknownAnchor

def resolvedTag (t : TagText) : Read String := do
  if t.handle = "" then return t.suffix
  match (← get).handles.get? t.handle with
  | some beginning => return beginning ++ t.suffix
  | none => throw .badTag

/-- Reads an anchor and a tag, in either order and both optional. -/
def properties : Read (Option Nat × Option String) := do
  match ← peek with
  | some (.anchor name) =>
    skip
    match ← peek with
    | some (.tag t) =>
      skip
      let tag ← resolvedTag t
      return (some (← anchored name), some tag)
    | _ => return (some (← anchored name), none)
  | some (.tag t) =>
    skip
    let tag ← resolvedTag t
    match ← peek with
    | some (.anchor name) =>
      skip
      return (some (← anchored name), some tag)
    | _ => return (none, some tag)
  | _ => return (none, none)

mutual

/-- Reads a node. `inLines` admits collections laid out in lines, and `sameColumn` a sequence that
is not indented against the mapping around it. -/
def node : Nat → Bool → Bool → Read Tree
  | 0, _, _ => throw .badStructure
  | fuel + 1, inLines, sameColumn => do
    if let some (.alias name) ← peek then
      skip
      return ← aliased name
    let (anchor, tag) ← properties
    let next ← peek
    match next with
    | some (.scalar style text) =>
      skip
      return .scalar anchor (if tag = some "!" then none else tag) style text
    | some .flowSequenceStart =>
      skip
      return .sequence anchor tag (← flowItems fuel true)
    | some .flowMappingStart =>
      skip
      return .mapping anchor tag (← flowEntries fuel true)
    | some .blockEntry =>
      if sameColumn then return .sequence anchor tag (← sameColumnItems fuel)
    | some .blockSequenceStart =>
      if inLines then
        skip
        return .sequence anchor tag (← lineItems fuel)
    | some .blockMappingStart =>
      if inLines then
        skip
        return .mapping anchor tag (← lineEntries fuel)
    | _ => pure ()
    if anchor.isNone && tag.isNone then throw .badStructure
    return .scalar anchor tag .plain ""

def lineItems : Nat → Read (List Tree)
  | 0 => throw .badStructure
  | fuel + 1 => do
    match ← peek with
    | some .blockEntry =>
      skip
      let item ← match ← peek with
        | some .blockEntry | some .blockEnd => pure empty
        | _ => node fuel true false
      return item :: (← lineItems fuel)
    | some .blockEnd =>
      skip
      return []
    | _ => throw .badStructure

def sameColumnItems : Nat → Read (List Tree)
  | 0 => throw .badStructure
  | fuel + 1 => do
    match ← peek with
    | some .blockEntry =>
      skip
      let item ← match ← peek with
        | some .blockEntry | some .key | some .value | some .blockEnd => pure empty
        | _ => node fuel true false
      return item :: (← sameColumnItems fuel)
    | _ => return []

def lineEntries : Nat → Read (List (Tree × Tree))
  | 0 => throw .badStructure
  | fuel + 1 => do
    match ← peek with
    | some .key =>
      skip
      let key ← lineEntryPart fuel
      let value ← match ← peek with
        | some .value => do
          skip
          lineEntryPart fuel
        | _ => pure empty
      return (key, value) :: (← lineEntries fuel)
    | some .blockEnd =>
      skip
      return []
    | _ => throw .badStructure

/-- Reads the key or the value of an entry after its indicator. -/
def lineEntryPart : Nat → Read Tree
  | 0 => throw .badStructure
  | fuel + 1 => do
    match ← peek with
    | some .key | some .value | some .blockEnd => return empty
    | _ => node fuel true true

/-- Reads the items of a sequence between brackets. An item that is a single entry is a mapping. -/
def flowItems : Nat → Bool → Read (List Tree)
  | 0, _ => throw .badStructure
  | fuel + 1, first => do
    if let some .flowSequenceEnd ← peek then
      skip
      return []
    if !first then
      match ← peek with
      | some .flowEntry => skip
      | _ => throw .badStructure
    match ← peek with
    | some .flowSequenceEnd =>
      skip
      return []
    | some .key =>
      skip
      let key ← match ← peek with
        | some .value | some .flowEntry | some .flowSequenceEnd => do
          skip
          pure empty
        | _ => node fuel false false
      let value ← match ← peek with
        | some .value => do
          skip
          match ← peek with
          | some .flowEntry | some .flowSequenceEnd => pure empty
          | _ => node fuel false false
        | _ => pure empty
      return .mapping none none [(key, value)] :: (← flowItems fuel false)
    | _ =>
      let item ← node fuel false false
      return item :: (← flowItems fuel false)

def flowEntries : Nat → Bool → Read (List (Tree × Tree))
  | 0, _ => throw .badStructure
  | fuel + 1, first => do
    if let some .flowMappingEnd ← peek then
      skip
      return []
    if !first then
      match ← peek with
      | some .flowEntry => skip
      | _ => throw .badStructure
    match ← peek with
    | some .flowMappingEnd =>
      skip
      return []
    | some .key =>
      skip
      let key ← match ← peek with
        | some .value | some .flowEntry | some .flowMappingEnd => pure empty
        | _ => node fuel false false
      let value ← match ← peek with
        | some .value => do
          skip
          match ← peek with
          | some .flowEntry | some .flowMappingEnd => pure empty
          | _ => node fuel false false
        | _ => pure empty
      return (key, value) :: (← flowEntries fuel false)
    | _ =>
      let key ← node fuel false false
      return (key, empty) :: (← flowEntries fuel false)

end

/-- Reads the directives before a document. -/
def directives : Nat → Bool → Entries String String → Read Unit
  | 0, _, _ => throw .badDirective
  | fuel + 1, versioned, declared => do
    match ← peek with
    | some (.directive (.version major minor)) =>
      if versioned || major ≠ 1 || (minor ≠ 1 && minor ≠ 2) then throw .badDirective
      skip
      directives fuel true declared
    | some (.directive (.tag handle beginning)) =>
      if declared.contains handle then throw .badDirective
      skip
      directives fuel versioned (declared.insert handle beginning)
    | _ =>
      let usual : Entries String String := [("!", "!"), ("!!", "tag:yaml.org,2002:")]
      modify fun r => { r with handles := usual.insertAll declared }

private def endDocument : Nat → Read Unit
  | 0 => pure ()
  | fuel + 1 => do
    match ← peek with
    | some .documentEnd =>
      skip
      endDocument fuel
    | some _ => throw .severalDocuments
    | none => pure ()

/-- Reads a stream of at most one document. -/
def document (fuel : Nat) : Read Tree := do
  let explicit ← match ← peek with
    | none => return empty
    | some (.directive _) | some .documentStart => pure true
    | _ => pure false
  directives fuel false []
  let tree ←
    if explicit then do
      match ← peek with
      | some .documentStart => skip
      | _ => throw .badStructure
      match ← peek with
      | none | some (.directive _) | some .documentStart | some .documentEnd => pure empty
      | _ => node fuel true false
    else node fuel true false
  endDocument fuel
  return tree

/-- The tree of a text. -/
def ofText (text : String) : Except Fault Tree := do
  let ts ← tokens text
  let (tree, _) ← (document (4 * ts.length + 8)).run ⟨ts, [], []⟩
  return tree

/-- A node under its number, if it has one. -/
def named (anchor : Option Nat) (t : Tree) : List (Nat × Tree) :=
  match anchor with
  | some number => [(number, t)]
  | none => []

mutual

/-- The anchored nodes in the order of their beginnings. -/
def targets : Tree → List (Nat × Tree)
  | .alias _ => []
  | .scalar anchor tag style text => named anchor (.scalar none tag style text)
  | .sequence anchor tag items => named anchor (.sequence none tag items) ++ targetsOfItems items
  | .mapping anchor tag entries =>
    named anchor (.mapping none tag entries) ++ targetsOfEntries entries

def targetsOfItems : List Tree → List (Nat × Tree)
  | [] => []
  | item :: rest => targets item ++ targetsOfItems rest

def targetsOfEntries : List (Tree × Tree) → List (Nat × Tree)
  | [] => []
  | (key, value) :: rest => targets key ++ targets value ++ targetsOfEntries rest

end

/-- The number of nodes and of ends of collections. -/
def eventCount (t : Tree) : Nat :=
  countFrom t
where
  countFrom : Tree → Nat
    | .alias _ => 1
    | .scalar .. => 1
    | .sequence _ _ items => 2 + countItems items
    | .mapping _ _ entries => 2 + countEntries entries
  countItems : List Tree → Nat
    | [] => 0
    | item :: rest => countFrom item + countItems rest
  countEntries : List (Tree × Tree) → Nat
    | [] => 0
    | (key, value) :: rest => countFrom key + countFrom value + countEntries rest

/-- The anchored nodes of a document, and how often its aliases may be followed. -/
structure Anchors where
  targets : List (Nat × Tree)
  allowance : Nat

def anchors (t : Tree) : Anchors :=
  ⟨t.targets.reverse, t.eventCount * 100⟩

/-- Follows an alias, counting it. -/
def follow (a : Anchors) : Tree → StateT Nat (Except Fault) Tree
  | .alias number => do
    modify (· + 1)
    if a.allowance < (← get) then throw .tooManyAliases
    match a.targets.lookup number with
    | some t => return t
    | none => throw .unknownAnchor
  | t => return t

/-- Replaces aliases, through `depth` levels of collections at most. -/
def expand (a : Anchors) : Nat → Tree → StateT Nat (Except Fault) Node
  | 0, t => do
    match ← follow a t with
    | .scalar _ tag style text => return .scalar tag style text
    | _ => throw .tooDeep
  | depth + 1, t => do
    match ← follow a t with
    | .scalar _ tag style text => return .scalar tag style text
    | .sequence _ tag items => return .sequence tag (← items.mapM (expand a depth))
    | .mapping _ tag entries =>
      return .mapping tag (← entries.mapM fun e => do
        return (← expand a depth e.1, ← expand a depth e.2))
    | .alias _ => throw .unknownAnchor

/-- How deep collections may be nested. -/
def depthLimit : Nat := 128

end Tree

/-- The tree of a text without aliases. The entries of the outermost mapping whose keys `ignored`
holds of are left out unread. -/
def Node.ofText (text : String) (ignored : String → Bool) : Except Fault Node := do
  let t ← Tree.ofText text
  let anchors := t.anchors
  let t := match t with
    | .mapping anchor tag entries => .mapping anchor tag (entries.filter fun e =>
      match e.1 with
      | .scalar _ _ _ key => !ignored key
      | .alias number =>
        match anchors.targets.lookup number with
        | some (.scalar _ _ _ key) => !ignored key
        | _ => true
      | _ => true)
    | t => t
  let (n, _) ← (Tree.expand anchors Tree.depthLimit t).run 0
  return n

end ContractPress.Yaml
