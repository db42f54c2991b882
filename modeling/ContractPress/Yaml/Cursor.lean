import ContractPress.Yaml.Fault

/-!
A place in a YAML text, with the character classes that its grammar is built from.
-/

namespace ContractPress.Yaml

def isBreak (c : Char) : Bool :=
  c = '\n' || c = '\r' || c = '\u0085' || c = '\u2028' || c = '\u2029'

def isBlank (c : Char) : Bool :=
  c = ' ' || c = '\t'

/-- Letters of names: anchors, directives and tag handles. -/
def isNameChar (c : Char) : Bool :=
  c.isAlphanum || c = '_' || c = '-'

/-- Characters that may stand anywhere in a YAML text. -/
def isAllowed (c : Char) : Bool :=
  let n := c.toNat
  n = 9 || n = 10 || n = 13 || (0x20 ≤ n && n ≤ 0x7E) || n = 0x85 ||
    (0xA0 ≤ n && n ≤ 0xFFFD) || 0x10000 ≤ n

/-- Whether the text ends, or goes on with a blank or a break. -/
def endsWord : List Char → Bool
  | [] => true
  | c :: _ => isBlank c || isBreak c

/-- Whether the text ends, or goes on with a break. -/
def endsLine : List Char → Bool
  | [] => true
  | c :: _ => isBreak c

/-- The text still to be read, and where that is. -/
structure Cursor where
  rest : List Char
  index : Nat
  line : Nat
  column : Nat

namespace Cursor

def start (text : List Char) : Cursor :=
  ⟨text, 0, 0, 0⟩

def peek (c : Cursor) : Option Char :=
  c.rest.head?

/-- Moves over `n` characters of one line. -/
def skip (c : Cursor) (n : Nat) : Cursor :=
  { c with rest := c.rest.drop n, index := c.index + n, column := c.column + n }

/-- The longest run of characters of one line that satisfy `p`. -/
def takeWhile (c : Cursor) (p : Char → Bool) : List Char × Cursor :=
  let taken := c.rest.takeWhile p
  (taken, c.skip taken.length)

def dropWhile (c : Cursor) (p : Char → Bool) : Cursor :=
  (c.takeWhile p).2

private def afterBreak (c : Cursor) (rest : List Char) (length : Nat) : Cursor :=
  ⟨rest, c.index + length, c.line + 1, 0⟩

/-- Moves over one line break, if there is one, and gives its text: the usual breaks are all written
as a line feed. -/
def takeBreak (c : Cursor) : List Char × Cursor :=
  match c.rest with
  | '\r' :: '\n' :: rest => (['\n'], c.afterBreak rest 2)
  | b :: rest =>
    if b = '\r' || b = '\n' || b = '\u0085' then (['\n'], c.afterBreak rest 1)
    else if isBreak b then ([b], c.afterBreak rest 1)
    else ([], c)
  | [] => ([], c)

def skipBreak (c : Cursor) : Cursor :=
  c.takeBreak.2

/-- Moves over a comment, if one begins here. -/
def skipComment (c : Cursor) : Cursor :=
  if c.peek = some '#' then c.dropWhile (!isBreak ·) else c

/-- Whether a line begins here with one of the two document markers. -/
def atMarker (c : Cursor) : Bool :=
  c.column = 0 && match c.rest with
    | '-' :: '-' :: '-' :: rest => endsWord rest
    | '.' :: '.' :: '.' :: rest => endsWord rest
    | _ => false

end Cursor

end ContractPress.Yaml
