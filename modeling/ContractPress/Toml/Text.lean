import ContractPress.Decimal.Numeral

/-!
The texts of TOML: what may stand in a line, strings between quotes, and bare keys.
-/

namespace ContractPress.Toml

abbrev Read := StateT (List Char) Option

/-- Characters that may stand in comments and, unless they have a meaning there, in strings. -/
def isAllowed (c : Char) : Bool :=
  c = '\t' || (' ' ≤ c && c ≠ '\x7f')

def isBareKeyChar (c : Char) : Bool :=
  c.isAlphanum || c = '_' || c = '-'

def isSpace (c : Char) : Bool :=
  c = ' ' || c = '\t'

/-- The text after a line break, if it starts with one. -/
def afterBreak? : List Char → Option (List Char)
  | '\n' :: rest | '\r' :: '\n' :: rest => some rest
  | _ => none

def skipSpaces : Read Unit :=
  modify (·.dropWhile isSpace)

def peek : Read (Option Char) := do
  return (← get).head?

/-- Reads the given text. -/
def expect (text : String) : Read Unit := do
  let rest ← get
  if text.toList.isPrefixOf rest then set (rest.drop text.toList.length) else failure

/-- Reads the given text if it is there. -/
def skipIf (text : String) : Read Bool := do
  let rest ← get
  if text.toList.isPrefixOf rest then
    set (rest.drop text.toList.length)
    return true
  return false

/-- The character that so many hexadecimal digits at the head of the text name. -/
def coded? (count : Nat) (text : List Char) : Option (Char × List Char) := do
  let digits := text.take count
  if digits.length < count then none
  let value ← Decimal.natural? 16 digits
  if h : value.isValidChar then some (Char.ofNatAux value h, text.drop count) else none

/-- The character that an escape stands for, and what follows it. -/
def escape? : List Char → Option (Char × List Char)
  | 'b' :: rest => some ('\x08', rest)
  | 't' :: rest => some ('\t', rest)
  | 'n' :: rest => some ('\n', rest)
  | 'f' :: rest => some ('\x0c', rest)
  | 'r' :: rest => some ('\r', rest)
  | 'e' :: rest => some ('\x1b', rest)
  | '"' :: rest => some ('"', rest)
  | '\\' :: rest => some ('\\', rest)
  | 'x' :: rest => coded? 2 rest
  | 'u' :: rest => coded? 4 rest
  | 'U' :: rest => coded? 8 rest
  | _ => none

/-- The text after a backslash that ends a line, all blanks and breaks at its beginning dropped. -/
def afterJoin? (text : List Char) : Option (List Char) := do
  let rest ← afterBreak? (text.dropWhile isSpace)
  return rest.dropWhile fun c => isSpace c || c = '\n' || c = '\r'

/-- Reads a string on one line up to its closing quote, gathering its characters last first. -/
def lineString (quote : Char) : Nat → List Char → List Char → Option (List Char × List Char)
  | 0, _, _ => none
  | _ + 1, _, [] => none
  | fuel + 1, acc, c :: rest =>
    if c = quote then some (acc, rest)
    else if c = '\\' && quote = '"' then do
      let (x, rest) ← escape? rest
      lineString quote fuel (x :: acc) rest
    else if isAllowed c then lineString quote fuel (c :: acc) rest
    else none

/-- Reads a string of several lines up to its three closing quotes, before which up to two more may
stand. -/
def longString (quote : Char) : Nat → List Char → List Char → Option (List Char × List Char)
  | 0, _, _ => none
  | _ + 1, _, [] => none
  | fuel + 1, acc, c :: rest =>
    if c = quote then
      let more := (rest.takeWhile (· = quote)).length
      if 5 < more + 1 then none
      else if 2 ≤ more then some (List.replicate (more - 2) quote ++ acc, rest.drop more)
      else longString quote fuel (c :: acc) rest
    else if c = '\\' && quote = '"' then
      match afterJoin? rest with
      | some rest => longString quote fuel acc rest
      | none => do
        let (x, rest) ← escape? rest
        longString quote fuel (x :: acc) rest
    else match afterBreak? (c :: rest) with
      | some after => longString quote fuel ('\n' :: if c = '\r' then '\r' :: acc else acc) after
      | none => if isAllowed c then longString quote fuel (c :: acc) rest else none

/-- Reads a string; one of several lines only where `long` admits it. A line break right after three
opening quotes does not count. -/
def quoted (quote : Char) (long : Bool) : Read String := do
  let rest ← get
  let three := List.replicate 3 quote
  let found :=
    if long && three.isPrefixOf rest then
      let body := rest.drop 3
      let body := (afterBreak? body).getD body
      longString quote (body.length + 1) [] body
    else lineString quote (rest.length + 1) [] (rest.drop 1)
  match found with
  | some (acc, rest) =>
    set rest
    return String.ofList acc.reverse
  | none => failure

/-- Reads one name of a key. -/
def keyName : Read String := do
  match ← peek with
  | some '"' => quoted '"' false
  | some '\'' => quoted '\'' false
  | _ =>
    let rest ← get
    let name := rest.takeWhile isBareKeyChar
    if name = [] then failure
    set (rest.dropWhile isBareKeyChar)
    return String.ofList name

/-- Reads the names of a key, with dots between them. -/
def keyNames : Nat → Read (List String)
  | 0 => failure
  | fuel + 1 => do
    skipSpaces
    let name ← keyName
    skipSpaces
    if ← skipIf "." then return name :: (← keyNames fuel)
    return [name]

def key : Read (List String) := do
  keyNames ((← get).length + 1)

end ContractPress.Toml
