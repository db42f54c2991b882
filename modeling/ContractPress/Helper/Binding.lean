import ContractPress.Helper.Block
import ContractPress.Template.Rendering

/-!
The helpers as templates call them.

The block comes in the keyword `caller`, and no other keyword is admitted. A branching helper calls
it with a context and a truth value that says which version is meant; a text helper calls it with
nothing.
-/

namespace ContractPress.Helper

open Template

/-- The means to call a value. -/
abbrev Call := Value → Arguments → Except Fault Value

private def callText (call : Call) (caller : Value) (args : List Value) : Except Fault String := do
  return (← call caller ⟨args, []⟩).print

def branchingBlocks (call : Call) (caller : Value) : Blocks (Except Fault) where
  primary context := callText call caller [context, .bool true]
  alternate context := callText call caller [context, .bool false]

def textBlocks (call : Call) (caller : Value) : Blocks (Except Fault) where
  primary _ := callText call caller []
  alternate _ := callText call caller []

/-- The block among the keywords. -/
def caller (keywords : Entries String Value) : Except Fault Value :=
  match keywords.get? "caller" with
  | none => .error (.of .missingArgument)
  | some v =>
    if keywords.any fun k => k.1 ≠ "caller" then .error (.of .tooManyArguments) else .ok v

/-- The fault of a call whose number of arguments is not `arity`. -/
def arityFault (arity : Nat) (args : List Value) : Fault :=
  .of (if args.length < arity then .missingArgument else .tooManyArguments)

/-- A helper that chooses a branch by its arguments. -/
def branching (arity : Nat) (choose : List Value → Option Choice) : Template.Helper :=
  fun call args =>
    match choose args.positional with
    | none => .error (arityFault arity args.positional)
    | some choice => do
      return .string (← choice.run (branchingBlocks call (← caller args.keywords)))

/-- A helper that changes the text of its block. -/
def textual (arity : Nat) (change? : List Value → Option Change) : Template.Helper :=
  fun call args =>
    match change? args.positional with
    | none => .error (arityFault arity args.positional)
    | some change => do
      return .string (← change.run (textBlocks call (← caller args.keywords)))

def arrayContainsBinding : Template.Helper :=
  branching 2 fun
    | [array, value] => some (.arrayContains array value .undefined)
    | _ => none

def compareBinding : Template.Helper :=
  branching 3 fun
    | [l, operator, r] => some (.compare l operator.print r .undefined)
    | _ => none

def propertyBinding : Template.Helper :=
  branching 3 fun
    | [context, name, newName] => some (.property context name.print newName.print)
    | _ => none

def withContextBinding : Template.Helper :=
  branching 1 fun
    | [value] => some (.withContext value)
    | _ => none

def withDefinitionBinding : Template.Helper :=
  branching 2 fun
    | [property, definitions] => some (.withDefinition property definitions property)
    | _ => none

private def plainText (change : Change) : Template.Helper :=
  textual 0 fun
    | [] => some change
    | _ => none

def lowerFirstBinding : Template.Helper := plainText .lowerFirst
def upperFirstBinding : Template.Helper := plainText .upperFirst
def lowercaseBinding : Template.Helper := plainText .lowercase
def uppercaseBinding : Template.Helper := plainText .uppercase

def capsplitBinding : Template.Helper :=
  textual 1 fun
    | [joiner] => some (.capsplit joiner.print)
    | _ => none

end ContractPress.Helper
