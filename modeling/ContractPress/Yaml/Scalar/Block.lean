import ContractPress.Yaml.Cursor

/-!
Block scalars: indented lines after a header, kept as they are or folded.
-/

namespace ContractPress.Yaml.Block

/-- What becomes of the line breaks at the end. -/
inductive Chomping where
  | strip
  | clip
  | keep
deriving DecidableEq

structure Header where
  chomping : Chomping
  /-- The indentation relative to the parent, if the header gives it. -/
  increment : Option Nat

private def chomping? (c : Cursor) : Option Chomping :=
  match c.peek with
  | some '+' => some .keep
  | some '-' => some .strip
  | _ => none

private def increment? (c : Cursor) : Option Nat :=
  match c.peek with
  | some d => if d.isDigit then some (d.toNat - 48) else none
  | none => none

/-- Reads the indicators after the style character, in either order. -/
def indicators (c : Cursor) : Except Fault (Header × Cursor) :=
  match chomping? c with
  | some chomping =>
    let c := c.skip 1
    match increment? c with
    | some 0 => .error .badBlockHeader
    | some n => .ok (⟨chomping, some n⟩, c.skip 1)
    | none => .ok (⟨chomping, none⟩, c)
  | none =>
    match increment? c with
    | some 0 => .error .badBlockHeader
    | some n =>
      let c := c.skip 1
      match chomping? c with
      | some chomping => .ok (⟨chomping, some n⟩, c.skip 1)
      | none => .ok (⟨.clip, some n⟩, c)
    | none => .ok (⟨.clip, none⟩, c)

def header (c : Cursor) : Except Fault (Header × Cursor) := do
  let (h, c) ← indicators c
  let c := (c.dropWhile isBlank).skipComment
  if endsLine c.rest then return (h, c.skipBreak) else throw .badBlockHeader

/-- Reads empty lines and the indentation after them: the breaks' texts and the deepest indentation.
As long as `indent` is zero the indentation is not known. -/
def emptyLines (indent : Nat) :
    Nat → List Char → Nat → Cursor → Except Fault (List Char × Nat × Cursor)
  | 0, breaks, deepest, c => .ok (breaks, deepest, c)
  | fuel + 1, breaks, deepest, c =>
    let spaces := (c.rest.takeWhile (· = ' ')).length
    let c := c.skip (if indent = 0 then spaces else min spaces (indent - c.column))
    let deepest := max deepest c.column
    if (indent = 0 || c.column < indent) && c.peek = some '\t' then .error .tabIndentation
    else if c.rest.isEmpty || !endsLine c.rest then .ok (breaks, deepest, c)
    else
      let (text, c) := c.takeBreak
      emptyLines indent fuel (breaks ++ text) deepest c

/-- The text so far with what is known of the line before. -/
structure Progress where
  /-- Last character first. -/
  acc : List Char
  /-- The break at the end of the last line. -/
  leadingBreak : List Char
  /-- The empty lines after it. -/
  trailingBreaks : List Char
  /-- Whether the last line began with a blank. -/
  leadingBlank : Bool

/-- Reads line after line of one indentation. -/
def lines (literal : Bool) (indent : Nat) :
    Nat → Progress → Cursor → Except Fault (Progress × Cursor)
  | 0, p, c => .ok (p, c)
  | fuel + 1, p, c =>
    match c.rest with
    | [] => .ok (p, c)
    | x :: _ =>
      if c.column ≠ indent then .ok (p, c)
      else
        let blank := isBlank x
        let folded := !literal && p.leadingBreak.head? = some '\n' && !p.leadingBlank && !blank
        let joint :=
          if folded then (if p.trailingBreaks.isEmpty then [' '] else []) else p.leadingBreak
        let (line, c) := c.takeWhile (!isBreak ·)
        let acc := line.reverse ++ p.trailingBreaks.reverse ++ joint.reverse ++ p.acc
        let (leadingBreak, c) := c.takeBreak
        match emptyLines indent (c.rest.length + 1) [] 0 c with
        | .ok (trailingBreaks, _, c) =>
          lines literal indent fuel ⟨acc, leadingBreak, trailingBreaks, blank⟩ c
        | .error e => .error e

/-- Reads a block scalar from its style character; `parent` is the indentation around it. -/
def read (literal : Bool) (parent : Int) (c : Cursor) : Except Fault (String × Cursor) := do
  let (h, c) ← header (c.skip 1)
  let given := match h.increment with
    | some n => (if 0 ≤ parent then parent + n else n).toNat
    | none => 0
  let (breaks, deepest, c) ← emptyLines given (c.rest.length + 1) [] 0 c
  let indent := if given = 0 then max (max deepest (parent + 1).toNat) 1 else given
  let (p, c) ← lines literal indent (c.rest.length + 1) ⟨[], [], breaks, false⟩ c
  let tail := match h.chomping with
    | .strip => []
    | .clip => p.leadingBreak
    | .keep => p.leadingBreak ++ p.trailingBreaks
  return (String.ofList (p.acc.reverse ++ tail), c)

end ContractPress.Yaml.Block
