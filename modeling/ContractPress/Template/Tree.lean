/-!
Templates as trees: statements that give text, and the expressions in them.
-/

namespace ContractPress.Template

/-- A value that is written out in a template. -/
inductive Constant where
  | none
  | bool (value : Bool)
  | integer (value : Nat)
  | float (value : Float)
  | string (value : String)
deriving Repr

inductive BinaryOp where
  | add
  | sub
  | mul
  | div
  | floorDiv
  | rem
  | pow
  | concat
  | equal
  | notEqual
  | less
  | lessOrEqual
  | greater
  | greaterOrEqual
  | isIn
deriving Repr, DecidableEq

inductive Expr where
  | constant (value : Constant)
  | variable (name : String)
  | list (items : List Expr)
  | map (entries : List (Expr × Expr))
  | negate (operand : Expr)
  | not (operand : Expr)
  | binary (op : BinaryOp) (left right : Expr)
  | both (left right : Expr)
  | either (left right : Expr)
  /-- `yes` if the test holds, otherwise `no` or nothing. -/
  | choice (test yes : Expr) (no : Option Expr)
  | attribute (container : Expr) (name : String)
  | item (container key : Expr)
  | filter (name : String) (operand : Expr) (arguments : List (Option String × Expr))
  | test (name : String) (operand : Expr) (arguments : List (Option String × Expr))
  /-- Arguments with a name are keywords. -/
  | call (callee : Expr) (arguments : List (Option String × Expr))

/-- What an assignment or a loop assigns to. -/
inductive Target where
  | name (name : String)
  | names (targets : List Target)
deriving Repr

inductive Statement where
  | text (text : String)
  | print (value : Expr)
  | conditional (test : Expr) (yes no : List Statement)
  | loop (target : Target) (source : Expr) (filter : Option Expr) (body otherwise : List Statement)
  | assign (target : Target) (value : Expr)
  /-- A call that gets its body as the keyword `caller`. -/
  | callBlock (callee : Expr) (arguments : List (Option String × Expr))
      (parameters : List (String × Option Expr)) (body : List Statement)
  /-- With `optional` a template that does not exist gives no text. -/
  | inclusion (template : Expr) (optional : Bool)

/-- A compiled template. -/
abbrev Tree := List Statement

end ContractPress.Template
