import ContractPress.Template.Token
import ContractPress.Template.Tree

/-!
The tree of a template.
-/

namespace ContractPress.Template.Parser

abbrev Parse := StateT (List Token) (Except Fault)

def fail {α : Type} : Parse α :=
  throw (.of .syntaxError)

/-- The next token, if there is one. -/
def peek : Parse (Option Token) := do
  match (← get).head? with
  | some (.broken fault) => throw fault
  | t => return t

def skip : Parse Unit :=
  modify List.tail

/-- Moves over a symbol if it comes next. -/
def skipSymbol (symbol : String) : Parse Bool := do
  match ← peek with
  | some (.symbol s) =>
    if s = symbol then
      skip
      return true
    else return false
  | _ => return false

/-- Moves over a word if it comes next. -/
def skipWord (word : String) : Parse Bool := do
  match ← peek with
  | some (.word w) =>
    if w = word then
      skip
      return true
    else return false
  | _ => return false

def expectSymbol (symbol : String) : Parse Unit := do
  if !(← skipSymbol symbol) then fail

def expectWord (word : String) : Parse Unit := do
  if !(← skipWord word) then fail

def anyWord : Parse String := do
  match ← peek with
  | some (.word w) =>
    skip
    return w
  | _ => fail

def closeTag : Parse Unit := do
  match ← peek with
  | some .closeTag => skip
  | _ => fail

/-- The operators of one level of binding, the loosest level first. -/
def operator? (level : Nat) (symbol : String) : Option BinaryOp :=
  match level, symbol with
  | 0, "+" => some .add
  | 0, "-" => some .sub
  | 1, "~" => some .concat
  | 2, "*" => some .mul
  | 2, "/" => some .div
  | 2, "//" => some .floorDiv
  | 2, "%" => some .rem
  | _, _ => none

/-- The number of levels of binding. -/
def levels : Nat := 3

def comparison? (symbol : String) : Option BinaryOp :=
  match symbol with
  | "==" => some .equal
  | "!=" => some .notEqual
  | "<" => some .less
  | "<=" => some .lessOrEqual
  | ">" => some .greater
  | ">=" => some .greaterOrEqual
  | _ => none

def nextOperator? (find : String → Option BinaryOp) : Parse (Option BinaryOp) := do
  match ← peek with
  | some (.symbol s) => return find s
  | _ => return none

/-- Words that cannot be the argument of a test without brackets. -/
def isConnective (word : String) : Bool :=
  word = "and" || word = "or" || word = "else" || word = "is" || word = "not" || word = "if" ||
    word = "in"

/-- Whether an argument without brackets follows the name of a test. -/
def argumentFollows : Parse Bool := do
  match ← peek with
  | some (.word w) => return !isConnective w
  | some (.string _) | some (.integer _) | some (.float _) => return true
  | some (.symbol s) => return s = "[" || s = "\x7b"
  | _ => return false

mutual

def expr : Nat → Parse Expr
  | 0 => fail
  | fuel + 1 => do choices fuel (← either fuel)

/-- Reads conditions after a value. -/
def choices : Nat → Expr → Parse Expr
  | 0, _ => fail
  | fuel + 1, yes => do
    if ← skipWord "if" then
      let test ← either fuel
      let no ← if ← skipWord "else" then do pure (some (← expr fuel)) else pure none
      choices fuel (.choice test yes no)
    else return yes

def either : Nat → Parse Expr
  | 0 => fail
  | fuel + 1 => do eitherMore fuel (← both fuel)

def eitherMore : Nat → Expr → Parse Expr
  | 0, _ => fail
  | fuel + 1, left => do
    if ← skipWord "or" then eitherMore fuel (.either left (← both fuel)) else return left

def both : Nat → Parse Expr
  | 0 => fail
  | fuel + 1 => do bothMore fuel (← negated fuel)

def bothMore : Nat → Expr → Parse Expr
  | 0, _ => fail
  | fuel + 1, left => do
    if ← skipWord "and" then bothMore fuel (.both left (← negated fuel)) else return left

def negated : Nat → Parse Expr
  | 0 => fail
  | fuel + 1 => do
    if ← skipWord "not" then return .not (← negated fuel)
    else comparisons fuel (← binary fuel 0)

def comparisons : Nat → Expr → Parse Expr
  | 0, _ => fail
  | fuel + 1, left => do
    match ← nextOperator? comparison? with
    | some op =>
      skip
      comparisons fuel (.binary op left (← binary fuel 0))
    | none =>
      if ← skipWord "in" then comparisons fuel (.binary .isIn left (← binary fuel 0))
      else if ← skipWord "not" then
        expectWord "in"
        comparisons fuel (.not (.binary .isIn left (← binary fuel 0)))
      else return left

/-- Reads operands joined by the operators of one level or of a tighter one. -/
def binary : Nat → Nat → Parse Expr
  | 0, _ => fail
  | fuel + 1, level => do
    if level < levels then binaryMore fuel level (← binary fuel (level + 1))
    else filters fuel (← signed fuel)

def binaryMore : Nat → Nat → Expr → Parse Expr
  | 0, _, _ => fail
  | fuel + 1, level, left => do
    match ← nextOperator? (operator? level) with
    | some op =>
      skip
      binaryMore fuel level (.binary op left (← binary fuel (level + 1)))
    | none => return left

def signed : Nat → Parse Expr
  | 0 => fail
  | fuel + 1 => do
    if ← skipSymbol "-" then return .negate (← signed fuel)
    else powers fuel (← suffixes fuel (← primary fuel))

def powers : Nat → Expr → Parse Expr
  | 0, _ => fail
  | fuel + 1, left => do
    if ← skipSymbol "**" then powers fuel (.binary .pow left (← suffixes fuel (← primary fuel)))
    else return left

/-- Reads filters and tests after a value. -/
def filters : Nat → Expr → Parse Expr
  | 0, _ => fail
  | fuel + 1, operand => do
    if ← skipSymbol "|" then
      let name ← anyWord
      let args ← if ← skipSymbol "(" then arguments fuel [] else pure []
      filters fuel (.filter name operand args)
    else if ← skipWord "is" then
      let isNegated ← skipWord "not"
      let name ← anyWord
      let args ←
        if ← skipSymbol "(" then arguments fuel []
        else if ← argumentFollows then do
          pure [(none, ← suffixes fuel (← primary fuel))]
        else pure []
      let test := .test name operand args
      filters fuel (if isNegated then .not test else test)
    else return operand

/-- Reads attributes, items and calls after a value. -/
def suffixes : Nat → Expr → Parse Expr
  | 0, _ => fail
  | fuel + 1, container => do
    if ← skipSymbol "." then suffixes fuel (.attribute container (← anyWord))
    else if ← skipSymbol "[" then
      let key ← expr fuel
      expectSymbol "]"
      suffixes fuel (.item container key)
    else if ← skipSymbol "(" then suffixes fuel (.call container (← arguments fuel []))
    else return container

/-- Reads the arguments of a call up to its closing bracket; `before` holds those already read, last
first. -/
def arguments : Nat → List (Option String × Expr) → Parse (List (Option String × Expr))
  | 0, _ => fail
  | fuel + 1, before => do
    if ← skipSymbol ")" then return before.reverse
    if !before.isEmpty then
      expectSymbol ","
      if ← skipSymbol ")" then return before.reverse
    let value ← expr fuel
    match value with
    | .variable name =>
      if ← skipSymbol "=" then
        let value ← either fuel
        return ← arguments fuel ((some name, value) :: before)
    | _ => pure ()
    if before.any fun a => a.1.isSome then fail
    arguments fuel ((none, value) :: before)

def primary : Nat → Parse Expr
  | 0 => fail
  | fuel + 1 => do
    match ← peek with
    | some (.word w) =>
      skip
      match w with
      | "true" | "True" => return .constant (.bool true)
      | "false" | "False" => return .constant (.bool false)
      | "none" | "None" => return .constant .none
      | name => return .variable name
    | some (.string s) =>
      skip
      return .constant (.string s)
    | some (.integer n) =>
      skip
      return .constant (.integer n)
    | some (.float x) =>
      skip
      return .constant (.float x)
    | some (.symbol "(") =>
      skip
      if ← skipSymbol ")" then return .list []
      let first ← expr fuel
      if ← skipSymbol ")" then return first
      return .list (← items fuel ")" [first])
    | some (.symbol "[") =>
      skip
      return .list (← items fuel "]" [])
    | some (.symbol "\x7b") =>
      skip
      return .map (← entries fuel [])
    | _ => fail

/-- Reads items up to a closing bracket; `before` holds those already read, last first. -/
def items : Nat → String → List Expr → Parse (List Expr)
  | 0, _, _ => fail
  | fuel + 1, close, before => do
    if ← skipSymbol close then return before.reverse
    if !before.isEmpty then
      expectSymbol ","
      if ← skipSymbol close then return before.reverse
    let item ← expr fuel
    items fuel close (item :: before)

def entries : Nat → List (Expr × Expr) → Parse (List (Expr × Expr))
  | 0, _ => fail
  | fuel + 1, before => do
    if ← skipSymbol "\x7d" then return before.reverse
    if !before.isEmpty then
      expectSymbol ","
      if ← skipSymbol "\x7d" then return before.reverse
    let key ← expr fuel
    expectSymbol ":"
    let value ← expr fuel
    entries fuel ((key, value) :: before)

end

/-- Names that cannot be assigned to. -/
def isReserved (name : String) : Bool :=
  name = "true" || name = "True" || name = "false" || name = "False" || name = "none" ||
    name = "None" || name = "loop" || name = "self"

def assignableName : Parse String := do
  let name ← anyWord
  if isReserved name then fail else return name

def targetEnds : Parse Bool := do
  match ← peek with
  | some (.symbol ")") | some .closePrint | some .closeTag | some (.word "in") => return true
  | _ => return false

mutual

/-- Reads a name, or names between commas. -/
def target : Nat → Parse Target
  | 0 => fail
  | fuel + 1 => do
    match ← targetNames fuel [] with
    | ([one], false) => return one
    | (targets, _) => return .names targets

/-- Also says whether a comma was met; `before` holds the targets already read, last first. -/
def targetNames : Nat → List Target → Parse (List Target × Bool)
  | 0, _ => fail
  | fuel + 1, before => do
    if !before.isEmpty then expectSymbol ","
    if ← targetEnds then return (before.reverse, !before.isEmpty)
    let one ←
      if ← skipSymbol "(" then do
        let inner ← target fuel
        expectSymbol ")"
        pure inner
      else do pure (.name (← assignableName))
    match ← peek with
    | some (.symbol ",") => targetNames fuel (one :: before)
    | _ => return ((one :: before).reverse, !before.isEmpty)

end

/-- Reads the parameters of a call block. Once one has a default, all later ones need one. -/
def parameters : Nat → List (String × Option Expr) → Parse (List (String × Option Expr))
  | 0, _ => fail
  | fuel + 1, before => do
    if ← skipSymbol ")" then return before.reverse
    if !before.isEmpty then
      expectSymbol ","
      if ← skipSymbol ")" then return before.reverse
    let name ← assignableName
    if ← skipSymbol "=" then
      let value ← expr fuel
      parameters fuel ((name, some value) :: before)
    else if before.any fun p => p.2.isSome then fail
    else parameters fuel ((name, none) :: before)

mutual

/-- Reads statements up to a tag that begins with one of the words; that word is left. -/
def body : Nat → List String → Parse Tree
  | 0, _ => fail
  | fuel + 1, ends => do
    match ← peek with
    | none => return []
    | some (.text s) =>
      skip
      return .text s :: (← body fuel ends)
    | some .openPrint =>
      skip
      let value ← expr fuel
      match ← peek with
      | some .closePrint => skip
      | _ => fail
      return .print value :: (← body fuel ends)
    | some .openTag =>
      skip
      match ← peek with
      | some (.word w) =>
        if ends.contains w then return []
        skip
        let s ← statement fuel w
        closeTag
        return s :: (← body fuel ends)
      | _ => fail
    | _ => fail

/-- Reads a statement after its first word, up to the bracket of its last tag. -/
def statement : Nat → String → Parse Statement
  | 0, _ => fail
  | fuel + 1, word => do
    match word with
    | "if" => conditional fuel
    | "for" =>
      let t ← target fuel
      expectWord "in"
      let source ← either fuel
      let filter ← if ← skipWord "if" then do pure (some (← expr fuel)) else pure none
      discard (skipWord "recursive")
      closeTag
      let inside ← body fuel ["endfor", "else"]
      let otherwise ←
        if ← skipWord "else" then do
          closeTag
          body fuel ["endfor"]
        else pure []
      expectWord "endfor"
      return .loop t source filter inside otherwise
    | "set" =>
      let t ←
        if ← skipSymbol "(" then do
          let inner ← target fuel
          expectSymbol ")"
          pure inner
        else do pure (.name (← assignableName))
      expectSymbol "="
      return .assign t (← expr fuel)
    | "call" =>
      let ps ← if ← skipSymbol "(" then parameters fuel [] else pure []
      match ← expr fuel with
      | .call callee args =>
        closeTag
        let inside ← body fuel ["endcall"]
        expectWord "endcall"
        return .callBlock callee args ps inside
      | _ => fail
    | "include" =>
      let name ← expr fuel
      let optional ← skipWord "ignore"
      if optional then expectWord "missing"
      return .inclusion name optional
    | _ => fail

/-- Reads a condition after its first word, with the alternatives. -/
def conditional : Nat → Parse Statement
  | 0 => fail
  | fuel + 1 => do
    let test ← expr fuel
    closeTag
    let yes ← body fuel ["endif", "else", "elif"]
    if ← skipWord "elif" then return .conditional test yes [← conditional fuel]
    let no ←
      if ← skipWord "else" then do
        closeTag
        body fuel ["endif"]
      else pure []
    expectWord "endif"
    return .conditional test yes no

end

/-- Compiles the text of a template. -/
def parse (source : String) : Except Fault Tree := do
  let ts := Lexer.tokens source
  let (tree, rest) ← (body (24 * ts.length + 24) []).run ts
  if rest.isEmpty then return tree else throw (.of .syntaxError)

end ContractPress.Template.Parser
