/-!
What can go wrong when a template is compiled or rendered.
-/

namespace ContractPress.Template

inductive FaultKind where
  | syntaxError
  | invalidOperation
  | missingArgument
  | tooManyArguments
  | undefinedError
  | unknownFunction
  | unknownFilter
  | unknownTest
  | unknownMethod
  | templateNotFound
  | badInclude
  | cannotUnpack
  | badEscape
deriving Repr, DecidableEq

def FaultKind.name : FaultKind → String
  | .syntaxError => "SyntaxError"
  | .invalidOperation => "InvalidOperation"
  | .missingArgument => "MissingArgument"
  | .tooManyArguments => "TooManyArguments"
  | .undefinedError => "UndefinedError"
  | .unknownFunction => "UnknownFunction"
  | .unknownFilter => "UnknownFilter"
  | .unknownTest => "UnknownTest"
  | .unknownMethod => "UnknownMethod"
  | .templateNotFound => "TemplateNotFound"
  | .badInclude => "BadInclude"
  | .cannotUnpack => "CannotUnpack"
  | .badEscape => "BadEscape"

/-- A fault with the words that describe it, where they matter. -/
structure Fault where
  kind : FaultKind
  detail : Option String
deriving Repr, DecidableEq

/-- A fault that its kind describes. -/
def Fault.of (kind : FaultKind) : Fault :=
  ⟨kind, none⟩

end ContractPress.Template
