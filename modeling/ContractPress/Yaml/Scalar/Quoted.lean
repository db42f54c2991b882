import ContractPress.Yaml.Scalar.Gap

/-!
Scalars between single or double quotes. Line breaks fold; between double quotes a backslash begins
an escape.
-/

namespace ContractPress.Yaml.Quoted

def hexValue? (c : Char) : Option Nat :=
  if '0' ≤ c && c ≤ '9' then some (c.toNat - 48)
  else if 'a' ≤ c && c ≤ 'f' then some (c.toNat - 87)
  else if 'A' ≤ c && c ≤ 'F' then some (c.toNat - 55)
  else none

/-- The value of exactly `count` hexadecimal digits at the head of the text. -/
def hexNumber? : Nat → Nat → List Char → Option Nat
  | 0, value, _ => some value
  | _ + 1, _, [] => none
  | count + 1, value, c :: rest => do hexNumber? count (value * 16 + (← hexValue? c)) rest

/-- The character that a one-letter escape stands for. -/
def shortEscape? (c : Char) : Option Char :=
  match c with
  | '0' => some '\x00'
  | 'a' => some '\x07'
  | 'b' => some '\x08'
  | 't' | '\t' => some '\t'
  | 'n' => some '\n'
  | 'v' => some '\x0b'
  | 'f' => some '\x0c'
  | 'r' => some '\r'
  | 'e' => some '\x1b'
  | ' ' => some ' '
  | '"' => some '"'
  | '/' => some '/'
  | '\\' => some '\\'
  | 'N' => some '\u0085'
  | '_' => some '\u00a0'
  | 'L' => some '\u2028'
  | 'P' => some '\u2029'
  | _ => none

/-- The number of hexadecimal digits after an escape letter. -/
def escapeDigits? (c : Char) : Option Nat :=
  match c with
  | 'x' => some 2
  | 'u' => some 4
  | 'U' => some 8
  | _ => none

/-- The character an escape stands for, and the length of the escape. -/
def escape (text : List Char) : Except Fault (Char × Nat) :=
  match text with
  | [] => .error .badEscape
  | c :: rest =>
    match shortEscape? c, escapeDigits? c with
    | some x, _ => .ok (x, 2)
    | none, some count =>
      match hexNumber? count 0 rest with
      | some value =>
        if h : value.isValidChar then .ok (Char.ofNatAux value h, 2 + count) else .error .badEscape
      | none => .error .badEscape
    | none, none => .error .badEscape

/-- How a run of characters without blanks ended. -/
inductive WordEnd where
  | atGap
  | atEscapedBreak

/-- One run of characters without blanks, gathered last first. -/
def word (single : Bool) :
    Nat → List Char → Cursor → Except Fault (List Char × Cursor × WordEnd)
  | 0, acc, c => .ok (acc, c, .atGap)
  | fuel + 1, acc, c =>
    match c.rest with
    | [] => .ok (acc, c, .atGap)
    | x :: rest =>
      if isBlank x || isBreak x then .ok (acc, c, .atGap)
      else if single then
        if x = '\'' then
          if rest.head? = some '\'' then word single fuel ('\'' :: acc) (c.skip 2)
          else .ok (acc, c, .atGap)
        else word single fuel (x :: acc) (c.skip 1)
      else if x = '"' then .ok (acc, c, .atGap)
      else if x = '\\' then
        match rest with
        | b :: _ =>
          if isBreak b then .ok (acc, (c.skip 1).skipBreak, .atEscapedBreak)
          else match escape rest with
            | .ok (value, length) => word single fuel (value :: acc) (c.skip length)
            | .error e => .error e
        | [] => .error .badEscape
      else word single fuel (x :: acc) (c.skip 1)

def readFrom (single : Bool) : Nat → List Char → Cursor → Except Fault (List Char × Cursor)
  | 0, _, _ => .error .unclosedQuote
  | fuel + 1, acc, c =>
    if c.atMarker || c.rest.isEmpty then .error .unclosedQuote
    else do
      let (acc, c, wordEnd) ← word single (c.rest.length + 1) acc c
      let start := match wordEnd with
        | .atGap => Gap.empty
        | .atEscapedBreak => Gap.afterEscapedBreak
      if c.peek = some (if single then '\'' else '"') then return (acc, c.skip 1)
      let (g, c) ← Gap.read 0 (c.rest.length + 1) start c
      readFrom single fuel (g.text.reverse ++ acc) c

/-- Reads a scalar from its opening quote to its closing one. -/
def read (single : Bool) (c : Cursor) : Except Fault (String × Cursor) := do
  let (acc, c) ← readFrom single (c.rest.length + 1) [] (c.skip 1)
  return (String.ofList acc.reverse, c)

end ContractPress.Yaml.Quoted
