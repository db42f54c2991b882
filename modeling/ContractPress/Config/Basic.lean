import ContractPress.Config.Rule
import ContractPress.Failure
import ContractPress.Text.Blank

/-!
Configurations: the rules of templates, in the order in which they are carried out.
-/

namespace ContractPress

structure Config where
  perDefinition : OrderedMap DefinitionRule
  perPath : OrderedMap RouteRule

namespace Config

def empty : Config :=
  ⟨.empty, .empty⟩

def addDefinitionRule (c : Config) (template : String) (rule : DefinitionRule) : Config :=
  { c with perDefinition := c.perDefinition.insert template rule }

def addRouteRule (c : Config) (template : String) (rule : RouteRule) : Config :=
  { c with perPath := c.perPath.insert template rule }

def isEmpty (c : Config) : Bool :=
  c.perDefinition.isEmpty && c.perPath.isEmpty

/-- The templates of all rules, those of definitions first. -/
def templates (c : Config) : List String :=
  c.perDefinition.keys ++ c.perPath.keys

/-- The first template whose groups are named by nothing but blanks. -/
def blankGroupBy? (c : Config) : Option String :=
  (c.perPath.entries.find? fun e => Text.allBlank e.2.groupBy).map Prod.fst

def validate (c : Config) : Except ConfigFault Unit :=
  match c.blankGroupBy? with
  | some template => .error (.blankGroupBy template)
  | none => .ok ()

end Config

end ContractPress
