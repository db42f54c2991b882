import ContractPress.Template.Fault
import ContractPress.Decimal.Numeral
import ContractPress.Text.Blank

/-!
The text of a template as tokens.

Outside tags everything is text. A minus sign inside a tag's bracket removes the blanks next to the
tag. Comments give no token, and what stands between the two raw tags is text.
-/

namespace ContractPress.Template

inductive Token where
  | text (text : String)
  | openPrint
  | closePrint
  | openTag
  | closeTag
  | word (name : String)
  | string (value : String)
  | integer (value : Nat)
  | float (value : Float)
  | symbol (symbol : String)
  /-- The text cannot be read on from here. -/
  | broken (fault : Fault)
deriving Repr

namespace Lexer

/-- Which blanks a tag removes. -/
inductive Trim where
  | keep
  | remove

def bad {α : Type} : Except Fault α :=
  .error (.of .syntaxError)

/-- Blanks between the parts of a tag. -/
def isTagBlank (c : Char) : Bool :=
  c = ' ' || c = '\t' || c = '\n' || c = '\r' || c = '\x0c'

private def isWordStart (c : Char) : Bool :=
  c.isAlpha || c = '_'

private def isWordPart (c : Char) : Bool :=
  c.isAlphanum || c = '_'

/-- The rest of a text that begins with `head`. -/
def after? (head : List Char) (cs : List Char) : Option (List Char) :=
  if head.isPrefixOf cs then some (cs.drop head.length) else none

/-- The sign of a bracket, and what follows it. -/
def trimSign (cs : List Char) : Trim × List Char :=
  match cs with
  | '-' :: rest => (.remove, rest)
  | '+' :: rest => (.keep, rest)
  | _ => (.keep, cs)

/-- Reads the rest of a tag that holds one word only: its closing sign, and what follows the tag. -/
def bareTag? (name : List Char) (cs : List Char) : Option (Trim × List Char) := do
  let cs ← after? name (cs.dropWhile isTagBlank)
  let (trim, cs) := trimSign (cs.dropWhile isTagBlank)
  return (trim, ← after? ['%', '\x7d'] cs)

private def dropEnd (cs : List Char) : List Char :=
  (cs.reverse.dropWhile Text.isBlank).reverse

def trimmedText (before after : Trim) (cs : List Char) : List Char :=
  let cs := match before with
    | .remove => cs.dropWhile Text.isBlank
    | .keep => cs
  match after with
  | .remove => dropEnd cs
  | .keep => cs

/-- Text up to the closing raw tag, gathered last first; then the two signs of that tag and what
follows it. -/
def rawText? (acc : List Char) : List Char → Option (List Char × Trim × Trim × List Char)
  | [] => none
  | c :: rest =>
    let found := do
      let cs ← after? ['\x7b', '%'] (c :: rest)
      let (opening, cs) := trimSign cs
      let (closing, cs) ← bareTag? "endraw".toList cs
      return (acc.reverse, opening, closing, cs)
    match found with
    | some r => some r
    | none => rawText? (c :: acc) rest

/-- The closing sign of a comment and what follows it. -/
def commentEnd? (last : Option Char) : List Char → Option (Trim × List Char)
  | '#' :: '\x7d' :: rest => some (if last = some '-' then .remove else .keep, rest)
  | c :: rest => commentEnd? (some c) rest
  | [] => none

/-- The first of three brackets that open a print, a tag or a comment. -/
inductive Bracket where
  | print
  | tag
  | comment

def bracket? : List Char → Option (Bracket × List Char)
  | '\x7b' :: '\x7b' :: rest => some (.print, rest)
  | '\x7b' :: '%' :: rest => some (.tag, rest)
  | '\x7b' :: '#' :: rest => some (.comment, rest)
  | _ => none

/-- Text up to a bracket, gathered last first, and what follows the bracket. -/
def leadingText (acc : List Char) : List Char → List Char × Option (Bracket × List Char)
  | [] => (acc.reverse, none)
  | c :: rest =>
    match bracket? (c :: rest) with
    | some found => (acc.reverse, some found)
    | none => leadingText (c :: acc) rest

/-- The value of four hexadecimal digits, and the rest. -/
private def hexUnit? : List Char → Option (Nat × List Char)
  | a :: b :: c :: d :: rest => (Decimal.natural? 16 [a, b, c, d]).map (·, rest)
  | _ => none

private def shortEscape? (c : Char) : Option Char :=
  match c with
  | '"' | '\\' | '/' | '\'' => some c
  | 'b' => some '\x08'
  | 'f' => some '\x0c'
  | 'n' => some '\n'
  | 'r' => some '\r'
  | 't' => some '\t'
  | _ => none

/-- A character outside the first plane, from the two units that spell it. -/
private def pair? (high low : Nat) : Option Char :=
  if 0xD800 ≤ high && high < 0xDC00 && 0xDC00 ≤ low && low < 0xE000 then
    some (Char.ofNat (0x10000 + (high - 0xD800) * 0x400 + (low - 0xDC00)))
  else none

/-- The text of a string whose escapes have not been read yet. -/
def unescape : Nat → List Char → Option (List Char)
  | 0, _ => none
  | _ + 1, [] => some []
  | fuel + 1, '\\' :: 'u' :: rest => do
    let (unit, rest) ← hexUnit? rest
    if 0xD800 ≤ unit && unit < 0xE000 then
      match rest with
      | '\\' :: 'u' :: rest =>
        let (low, rest) ← hexUnit? rest
        return (← pair? unit low) :: (← unescape fuel rest)
      | _ => none
    else return Char.ofNat unit :: (← unescape fuel rest)
  | fuel + 1, '\\' :: c :: rest => do return (← shortEscape? c) :: (← unescape fuel rest)
  | _ + 1, ['\\'] => none
  | fuel + 1, c :: rest => do return c :: (← unescape fuel rest)

/-- The characters up to the closing quote, gathered last first, and the rest. -/
def quotedBody? (quote : Char) (acc : List Char) : List Char → Option (List Char × List Char)
  | [] => none
  | ['\\'] => none
  | '\\' :: c :: rest => quotedBody? quote (c :: '\\' :: acc) rest
  | c :: rest => if c = quote then some (acc.reverse, rest) else quotedBody? quote (c :: acc) rest

def string (quote : Char) (cs : List Char) : Except Fault (Token × List Char) :=
  match quotedBody? quote [] cs with
  | none => bad
  | some (body, rest) =>
    match unescape (body.length + 1) body with
    | some text => .ok (.string (String.ofList text), rest)
    | none => .error (.of .badEscape)

/-- How far the reading of a number has come. -/
inductive NumberPart where
  | whole
  | fraction
  | exponentSign
  | exponent
deriving DecidableEq

/-- The characters of a decimal number, gathered last first, and the rest. -/
def numberBody (part : NumberPart) (acc : List Char) :
    List Char → List Char × NumberPart × List Char
  | [] => (acc.reverse, part, [])
  | c :: rest =>
    if c.isDigit then
      numberBody (if part = .exponentSign then .exponent else part) (c :: acc) rest
    else if c = '_' then numberBody part (c :: acc) rest
    else if c = '.' && part = .whole then numberBody .fraction (c :: acc) rest
    else if (c = 'e' || c = 'E') && (part = .whole || part = .fraction) then
      numberBody .exponentSign (c :: acc) rest
    else if (c = '+' || c = '-') && part = .exponentSign then numberBody .exponent (c :: acc) rest
    else (acc.reverse, part, c :: rest)

def wholeNumber (base : Nat) (digits rest : List Char) : Except Fault (Token × List Char) :=
  if digits.getLast? = some '_' then bad
  else match Decimal.natural? base (digits.filter (· ≠ '_')) with
    | some n => if n < Nat.pow 2 128 then .ok (.integer n, rest) else bad
    | none => bad

def basedNumber (base : Nat) (cs : List Char) : Except Fault (Token × List Char) :=
  let isPart := fun c : Char =>
    c = '_' || c.isDigit || (base = 16 && (Decimal.digitValue? c).isSome)
  wholeNumber base (cs.takeWhile isPart) (cs.dropWhile isPart)

def number (cs : List Char) : Except Fault (Token × List Char) :=
  match cs with
  | '0' :: 'x' :: rest | '0' :: 'X' :: rest => basedNumber 16 rest
  | '0' :: 'o' :: rest | '0' :: 'O' :: rest => basedNumber 8 rest
  | '0' :: 'b' :: rest | '0' :: 'B' :: rest => basedNumber 2 rest
  | _ =>
    let (body, part, rest) := numberBody .whole [] cs
    if part = .whole then wholeNumber 10 body rest
    else if body.getLast? = some '_' then bad
    else match Decimal.readFloat? (body.filter (· ≠ '_')) with
      | some x => .ok (.float x, rest)
      | none => bad

private def symbols : List String :=
  ["//", "**", "==", "!=", ">=", "<=", "+", "-", "*", "/", "%", ".", ",", ":", "~", "|", "=", ">",
    "<", "(", ")", "[", "]", "\x7b", "\x7d"]

/-- Reads one token inside a tag, if the text does not end there. -/
def tagToken? (cs : List Char) : Except Fault (Option (Token × List Char)) :=
  match cs with
  | [] => .ok none
  | c :: rest =>
    match symbols.find? fun s => s.toList.isPrefixOf cs with
    | some s => .ok (some (.symbol s, cs.drop s.length))
    | none =>
      if c = '"' || c = '\'' then (string c rest).map some
      else if c.isDigit then (number cs).map some
      else if isWordStart c then
        .ok (some (.word (String.ofList (cs.takeWhile isWordPart)), cs.dropWhile isWordPart))
      else bad

/-- Where a lexer stands. -/
inductive Place where
  | outside (trim : Trim)
  | insidePrint
  | insideTag

/-- The closing bracket of the place, with its sign, if it stands here. -/
def closing? (bracket cs : List Char) : Option (Trim × List Char) :=
  match after? bracket cs with
  | some rest => some (.keep, rest)
  | none => match cs with
    | '-' :: cs => (after? bracket cs).map (.remove, ·)
    | '+' :: cs => (after? bracket cs).map (.keep, ·)
    | _ => none

def textToken (cs : List Char) : List Token :=
  if cs.isEmpty then [] else [.text (String.ofList cs)]

def unreadable : List Token :=
  [.broken (.of .syntaxError)]

def scan : Nat → Place → List Char → List Token
  | 0, _, _ => unreadable
  | fuel + 1, .outside trim, cs =>
    match leadingText [] cs with
    | (text, none) => textToken (trimmedText trim .keep text)
    | (text, some (bracket, rest)) =>
      let (sign, inside) := trimSign rest
      let lead := textToken (trimmedText trim sign text)
      match bracket with
      | .print => lead ++ .openPrint :: scan fuel .insidePrint inside
      | .comment =>
        match commentEnd? none rest with
        | some (trim, rest) => lead ++ scan fuel (.outside trim) rest
        | none => lead ++ unreadable
      | .tag =>
        match bareTag? "raw".toList inside with
        | some (before, rest) =>
          match rawText? [] rest with
          | some (raw, after, trim, rest) =>
            lead ++ textToken (trimmedText before after raw) ++ scan fuel (.outside trim) rest
          | none => lead ++ unreadable
        | none => lead ++ .openTag :: scan fuel .insideTag inside
  | fuel + 1, .insidePrint, cs =>
    let cs := cs.dropWhile isTagBlank
    match closing? ['\x7d', '\x7d'] cs with
    | some (trim, rest) => .closePrint :: scan fuel (.outside trim) rest
    | none =>
      match tagToken? cs with
      | .ok (some (token, rest)) => token :: scan fuel .insidePrint rest
      | .ok none => []
      | .error fault => [.broken fault]
  | fuel + 1, .insideTag, cs =>
    let cs := cs.dropWhile isTagBlank
    match closing? ['%', '\x7d'] cs with
    | some (trim, rest) => .closeTag :: scan fuel (.outside trim) rest
    | none =>
      match tagToken? cs with
      | .ok (some (token, rest)) => token :: scan fuel .insideTag rest
      | .ok none => []
      | .error fault => [.broken fault]

/-- The tokens of a template, up to a place where it cannot be read on. -/
def tokens (source : String) : List Token :=
  let cs := source.toList
  scan (2 * cs.length + 2) (.outside .keep) cs

end Lexer

end ContractPress.Template
