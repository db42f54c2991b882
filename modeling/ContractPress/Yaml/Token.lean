import ContractPress.Yaml.Scalar.Plain
import ContractPress.Yaml.Scalar.Block
import ContractPress.Yaml.Tag

/-!
A YAML text as tokens.

Indentation becomes tokens of its own: a collection that is laid out in lines opens where its first
entry is met and closes where a line begins further left. A key on one line is recognised only when
its colon is met, so the tokens that mark it as a key are put in where it began.
-/

namespace ContractPress.Yaml

inductive ScalarStyle where
  | plain
  | quoted
deriving Repr, DecidableEq

inductive Token where
  | directive (directive : Directive)
  | documentStart
  | documentEnd
  | blockSequenceStart
  | blockMappingStart
  | blockEnd
  | flowSequenceStart
  | flowSequenceEnd
  | flowMappingStart
  | flowMappingEnd
  | blockEntry
  | flowEntry
  | key
  | value
  | alias (name : String)
  | anchor (name : String)
  | tag (tag : TagText)
  | scalar (style : ScalarStyle) (text : String)

/-- A place where a key may have begun. -/
structure SimpleKey where
  /-- The line has to turn out to be a key. -/
  required : Bool
  /-- The number of tokens before it. -/
  position : Nat
  index : Nat
  line : Nat
  column : Nat

/-- Tokens so far, with what decides about the next one. -/
structure Scan where
  cursor : Cursor
  /-- Last token first. -/
  tokens : List Token
  count : Nat
  /-- The column of the innermost collection laid out in lines; minus one outside all. -/
  indent : Int
  /-- The columns of the collections around it, innermost first. -/
  outer : List Int
  keyAllowed : Bool
  /-- The possible key of the innermost flow collection, or of the lines outside all. -/
  simpleKey : Option SimpleKey
  /-- The possible keys further out, one for each flow collection that is open. -/
  outerKeys : List (Option SimpleKey)

namespace Scan

def start (text : List Char) : Scan :=
  ⟨Cursor.start text, [], 0, -1, [], true, none, []⟩

def inFlow (s : Scan) : Bool :=
  !s.outerKeys.isEmpty

def push (s : Scan) (t : Token) : Scan :=
  { s with tokens := t :: s.tokens, count := s.count + 1 }

/-- Puts a token in at an earlier position. -/
def insertAt (s : Scan) (position : Nat) (t : Token) : Scan :=
  let later := s.count - position
  { s with
    tokens := s.tokens.take later ++ t :: s.tokens.drop later
    count := s.count + 1 }

def skip (s : Scan) (n : Nat) : Scan :=
  { s with cursor := s.cursor.skip n }

/-- Forgets a possible key; a required one must not be forgotten. -/
def dropKey (s : Scan) : Except Fault Scan :=
  match s.simpleKey with
  | some k => if k.required then .error .missingColon else .ok { s with simpleKey := none }
  | none => .ok s

private def keepFresh (c : Cursor) : Option SimpleKey → Except Fault (Option SimpleKey)
  | some k =>
    if k.line < c.line || k.index + 1024 < c.index then
      if k.required then .error .missingColon else .ok none
    else .ok (some k)
  | none => .ok none

/-- Forgets the possible keys that are not on this line or are too long. -/
def dropStaleKeys (s : Scan) : Except Fault Scan := do
  return { s with
    simpleKey := ← keepFresh s.cursor s.simpleKey
    outerKeys := ← s.outerKeys.mapM (keepFresh s.cursor) }

/-- Remembers that a key may begin here. -/
def markKey (s : Scan) : Except Fault Scan :=
  if s.keyAllowed then do
    let required := !s.inFlow && s.indent = s.cursor.column
    let s ← s.dropKey
    let c := s.cursor
    return { s with simpleKey := some ⟨required, s.count, c.index, c.line, c.column⟩ }
  else .ok s

/-- Closes the collections laid out in lines that do not reach as far left as `column`. -/
def closeTo (column : Int) : List Int → Scan → Scan
  | outer, s =>
    if s.inFlow || s.indent ≤ column then s
    else match outer with
      | [] => { s.push .blockEnd with indent := -1, outer := [] }
      | i :: rest => closeTo column rest { s.push .blockEnd with indent := i, outer := rest }

def unindent (s : Scan) (column : Int) : Scan :=
  closeTo column s.outer s

/-- Opens a collection laid out in lines if this column lies further right than the innermost one.
-/
def indentTo (s : Scan) (column position : Nat) (t : Token) : Scan :=
  if s.inFlow || (column : Int) ≤ s.indent then s
  else { s.insertAt position t with indent := column, outer := s.indent :: s.outer }

/-- Moves over blanks, comments and breaks. Tabs count as blanks only where no key may begin. -/
def toNextToken : Nat → Scan → Scan
  | 0, s => s
  | fuel + 1, s =>
    let c := s.cursor
    let c := if c.index = 0 && c.peek = some '\uFEFF' then c.skip 1 else c
    let tabs := s.inFlow || !s.keyAllowed
    let c := (c.dropWhile fun x => x = ' ' || (tabs && x = '\t')).skipComment
    match c.peek with
    | some x =>
      if isBreak x then
        toNextToken fuel { s with cursor := c.skipBreak, keyAllowed := s.keyAllowed || !s.inFlow }
      else { s with cursor := c }
    | none => { s with cursor := c }

private def outsideAll (s : Scan) : Except Fault Scan := do
  return { ← (s.unindent (-1)).dropKey with keyAllowed := false }

def directive (s : Scan) : Except Fault Scan := do
  let s ← outsideAll s
  let (d, c) ← Directive.read s.cursor
  return { s with cursor := c }.push (.directive d)

def documentMarker (s : Scan) (t : Token) : Except Fault Scan := do
  return ((← outsideAll s).push t).skip 3

def openFlow (s : Scan) (t : Token) : Except Fault Scan := do
  let s ← s.markKey
  return { (s.push t).skip 1 with
    simpleKey := none, outerKeys := s.simpleKey :: s.outerKeys, keyAllowed := true }

def closeFlow (s : Scan) (t : Token) : Except Fault Scan := do
  let s ← s.dropKey
  let s := match s.outerKeys with
    | [] => s
    | k :: rest => { s with simpleKey := k, outerKeys := rest }
  return { (s.push t).skip 1 with keyAllowed := false }

def flowEntry (s : Scan) : Except Fault Scan := do
  return { ((← s.dropKey).push .flowEntry).skip 1 with keyAllowed := true }

/-- An entry of a sequence, or a key given by its indicator. -/
def lineEntry (s : Scan) (opening t : Token) (keyAllowedInFlow : Bool) : Except Fault Scan := do
  if !s.inFlow && !s.keyAllowed then throw .misplacedIndicator
  let s ← (s.indentTo s.cursor.column s.count opening).dropKey
  return { (s.push t).skip 1 with keyAllowed := !s.inFlow || keyAllowedInFlow }

def value (s : Scan) : Except Fault Scan :=
  match s.simpleKey with
  | some k =>
    let s := (s.insertAt k.position .key).indentTo k.column k.position .blockMappingStart
    .ok { (s.push .value).skip 1 with simpleKey := none, keyAllowed := false }
  | none =>
    if !s.inFlow && !s.keyAllowed then .error .misplacedIndicator
    else
      let s := s.indentTo s.cursor.column s.count .blockMappingStart
      .ok { (s.push .value).skip 1 with keyAllowed := !s.inFlow }

/-- A token that may begin a key, read by `read`. -/
def keyStart (s : Scan) (read : Cursor → Except Fault (Token × Cursor)) : Except Fault Scan := do
  let s := { ← s.markKey with keyAllowed := false }
  let (t, c) ← read s.cursor
  return { s with cursor := c }.push t

def blockScalar (s : Scan) (literal : Bool) : Except Fault Scan := do
  let s ← s.dropKey
  let (text, c) ← Block.read literal s.indent s.cursor
  return { s with cursor := c, keyAllowed := true }.push (.scalar .quoted text)

def plainScalar (s : Scan) : Except Fault Scan := do
  let s ← s.markKey
  let (text, c, broken) ← Plain.read s.inFlow (s.indent + 1).toNat s.cursor
  return { s with cursor := c, keyAllowed := broken }.push (.scalar .plain text)

private def isIndicator (c : Char) : Bool :=
  "-?:,[]\x7b\x7d#&*!|>'\"%@`".toList.contains c

/-- Whether a plain scalar begins here. -/
def plainStarts (inFlow : Bool) : List Char → Bool
  | [] => false
  | c :: rest =>
    let blankFollows := match rest with
      | [] => false
      | b :: _ => isBlank b
    !(isBlank c || isBreak c || isIndicator c) || (c = '-' && !blankFollows) ||
      (!inFlow && (c = '?' || c = ':') && !endsWord rest)

/-- Reads the token that begins here. -/
def token (s : Scan) (c : Char) (rest : List Char) : Except Fault Scan :=
  if c = '%' && s.cursor.column = 0 then s.directive
  else if s.cursor.atMarker then s.documentMarker (if c = '-' then .documentStart else .documentEnd)
  else if c = '[' then s.openFlow .flowSequenceStart
  else if c = '\x7b' then s.openFlow .flowMappingStart
  else if c = ']' then s.closeFlow .flowSequenceEnd
  else if c = '\x7d' then s.closeFlow .flowMappingEnd
  else if c = ',' then s.flowEntry
  else if c = '-' && endsWord rest then s.lineEntry .blockSequenceStart .blockEntry true
  else if c = '?' && (s.inFlow || endsWord rest) then s.lineEntry .blockMappingStart .key false
  else if c = ':' && (s.inFlow || endsWord rest) then s.value
  else if c = '*' then s.keyStart fun c => do
    let (name, c) ← anchorName c
    return (.alias name, c)
  else if c = '&' then s.keyStart fun c => do
    let (name, c) ← anchorName c
    return (.anchor name, c)
  else if c = '!' then s.keyStart fun c => do
    let (tag, c) ← Tag.read s.inFlow c
    return (.tag tag, c)
  else if (c = '|' || c = '>') && !s.inFlow then s.blockScalar (c = '|')
  else if c = '\'' || c = '"' then s.keyStart fun c' => do
    let (text, c') ← Quoted.read (c = '\'') c'
    return (.scalar .quoted text, c')
  else if plainStarts s.inFlow (c :: rest) then s.plainScalar
  else .error .strayCharacter

def finish (s : Scan) : Except Fault (List Token) := do
  return (← (s.unindent (-1)).dropKey).tokens.reverse

def run : Nat → Scan → Except Fault (List Token)
  | 0, s => s.finish
  | fuel + 1, s => do
    let s ← (s.toNextToken (s.cursor.rest.length + 1)).dropStaleKeys
    let s := s.unindent s.cursor.column
    match s.cursor.rest with
    | [] => s.finish
    | c :: rest => run fuel (← s.token c rest)

end Scan

/-- The tokens of a text. A byte order mark at the beginning does not count. -/
def tokens (text : String) : Except Fault (List Token) :=
  let chars := match text.toList with
    | '\uFEFF' :: rest => rest
    | chars => chars
  if chars.all isAllowed then Scan.run (chars.length + 1) (Scan.start chars)
  else .error .forbiddenCharacter

end ContractPress.Yaml
