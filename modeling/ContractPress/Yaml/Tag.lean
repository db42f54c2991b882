import ContractPress.Yaml.Scalar.Quoted

/-!
Tags, anchors and directives as they are written.
-/

namespace ContractPress.Yaml

/-- A tag as written: `handle` names the declared beginning, and is empty for a tag given in full.
-/
structure TagText where
  handle : String
  suffix : String

/-- A line that begins with a percent sign. -/
inductive Directive where
  | version (major minor : Nat)
  | tag (handle beginning : String)

namespace Tag

def isUriChar (verbatim : Bool) (c : Char) : Bool :=
  isNameChar c || ";/?:@&=+$.%!~*'()".toList.contains c ||
    (verbatim && (c = ',' || c = '[' || c = ']'))

/-- The number of octets that a leading octet announces. -/
def octetWidth? (octet : Nat) : Option Nat :=
  if octet < 0x80 then some 1
  else if octet < 0xC0 then none
  else if octet < 0xE0 then some 2
  else if octet < 0xF0 then some 3
  else if octet < 0xF8 then some 4
  else none

def octet? : List Char → Option (Nat × List Char)
  | '%' :: a :: b :: rest => do
    return ((← Quoted.hexValue? a) * 16 + (← Quoted.hexValue? b), rest)
  | _ => none

/-- Reads the octets after the leading one. -/
def moreOctets : Nat → Nat → List Char → Except Fault (Nat × List Char)
  | 0, value, text => .ok (value, text)
  | count + 1, value, text =>
    match octet? text with
    | some (octet, rest) =>
      if 0x80 ≤ octet && octet < 0xC0 then moreOctets count (value * 64 + (octet - 0x80)) rest
      else .error .badTag
    | none => .error .badTag

/-- Reads one character written as escaped octets; also gives the length of the escape. -/
def escapedChar (text : List Char) : Except Fault (Char × Nat) :=
  match octet? text with
  | none => .error .badTag
  | some (first, rest) =>
    match octetWidth? first with
    | none => .error .badTag
    | some width =>
      let bits := match width with
        | 1 => first
        | 2 => first - 0xC0
        | 3 => first - 0xE0
        | _ => first - 0xF0
      match moreOctets (width - 1) bits rest with
      | .ok (value, _) => .ok (Char.ofNat value, 3 * width)
      | .error e => .error e

/-- Reads the characters of a tag, last first. -/
def uri (verbatim : Bool) : Nat → List Char → Cursor → Except Fault (List Char × Cursor)
  | 0, acc, c => .ok (acc, c)
  | fuel + 1, acc, c =>
    match c.peek with
    | none => .ok (acc, c)
    | some x =>
      if !isUriChar verbatim x then .ok (acc, c)
      else if x = '%' then
        match escapedChar c.rest with
        | .ok (value, length) => uri verbatim fuel (value :: acc) (c.skip length)
        | .error e => .error e
      else uri verbatim fuel (x :: acc) (c.skip 1)

/-- Reads a tag's characters after those in `head`; there has to be one in all. -/
def suffix (verbatim : Bool) (head : Option (List Char)) (c : Cursor) :
    Except Fault (String × Cursor) := do
  let (acc, c') ← uri verbatim (c.rest.length + 1) [] c
  if head.isNone && acc.isEmpty then throw .badTag
  return (String.ofList ((head.getD []).drop 1 ++ acc.reverse), c')

/-- Reads the exclamation mark, the name and the closing mark of a handle, as far as they are there.
-/
def handle (c : Cursor) : Except Fault (List Char × Cursor) :=
  match c.rest with
  | '!' :: rest =>
    let name := rest.takeWhile isNameChar
    let c := c.skip (1 + name.length)
    if c.peek = some '!' then .ok ('!' :: name ++ ['!'], c.skip 1) else .ok ('!' :: name, c)
  | _ => .error .badTag

/-- Reads a tag with the blank, break or comma that has to follow it. -/
def read (inFlow : Bool) (c : Cursor) : Except Fault (TagText × Cursor) := do
  let (tag, c) ←
    if (c.rest.drop 1).head? = some '<' then do
      let (text, c) ← suffix true none (c.skip 2)
      if c.peek = some '>' then pure (⟨"", text⟩, c.skip 1) else throw .badTag
    else do
      let (h, c) ← handle c
      if 1 < h.length && h.getLast? = some '!' then
        let (text, c) ← suffix false none c
        pure (⟨String.ofList h, text⟩, c)
      else
        let (text, c) ← suffix false (some h) c
        pure (if text = "" then (⟨"", "!"⟩, c) else (⟨"!", text⟩, c))
  if endsWord c.rest || (inFlow && c.peek = some ',') then return (tag, c) else throw .badTag

end Tag

/-- Reads the name of an anchor or alias after its indicator. -/
def anchorName (c : Cursor) : Except Fault (String × Cursor) :=
  let (name, c) := (c.skip 1).takeWhile isNameChar
  let followed := endsWord c.rest || match c.peek with
    | some x => "?:,]\x7d%@`".toList.contains x
    | none => true
  if name.isEmpty || !followed then .error .badAnchor else .ok (String.ofList name, c)

namespace Directive

def number (c : Cursor) : Except Fault (Nat × Cursor) :=
  let (digits, c) := c.takeWhile Char.isDigit
  if digits.isEmpty || 9 < digits.length then .error .badDirective
  else .ok (digits.foldl (fun n d => n * 10 + (d.toNat - 48)) 0, c)

private def versionNumber (c : Cursor) : Except Fault (Directive × Cursor) := do
  let (major, c) ← number (c.dropWhile isBlank)
  if c.peek ≠ some '.' then throw .badDirective
  let (minor, c) ← number (c.skip 1)
  return (.version major minor, c)

private def tagDeclaration (c : Cursor) : Except Fault (Directive × Cursor) := do
  let (h, c) ← Tag.handle (c.dropWhile isBlank)
  if 1 < h.length && h.getLast? ≠ some '!' then throw .badDirective
  if !(match c.peek with | some x => isBlank x | none => false) then throw .badDirective
  let (beginning, c) ← Tag.suffix true none (c.dropWhile isBlank)
  if !endsWord c.rest then throw .badDirective
  return (.tag (String.ofList h) beginning, c)

/-- Reads a directive with the rest of its line. -/
def read (c : Cursor) : Except Fault (Directive × Cursor) := do
  let (name, c) := (c.skip 1).takeWhile isNameChar
  if name.isEmpty || !endsWord c.rest then throw .badDirective
  let (d, c) ←
    if name = "YAML".toList then versionNumber c
    else if name = "TAG".toList then tagDeclaration c
    else throw .badDirective
  let c := (c.dropWhile isBlank).skipComment
  if endsLine c.rest then return (d, c.skipBreak) else throw .badDirective

end Directive

end ContractPress.Yaml
