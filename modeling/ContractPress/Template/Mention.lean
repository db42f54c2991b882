import ContractPress.Template.Tree

/-!
The variables that a part of a template mentions.
-/

namespace ContractPress.Template

mutual

def Expr.mentions : Expr → List String
  | .constant _ => []
  | .variable name => [name]
  | .list items => itemMentions items
  | .map entries => entryMentions entries
  | .negate e | .not e | .attribute e _ => e.mentions
  | .binary _ a b | .both a b | .either a b | .item a b => a.mentions ++ b.mentions
  | .choice test yes no => test.mentions ++ yes.mentions ++ optionalMentions no
  | .filter _ e args | .test _ e args | .call e args => e.mentions ++ argumentMentions args

def optionalMentions : Option Expr → List String
  | none => []
  | some e => e.mentions

def itemMentions : List Expr → List String
  | [] => []
  | e :: rest => e.mentions ++ itemMentions rest

def entryMentions : List (Expr × Expr) → List String
  | [] => []
  | (k, v) :: rest => k.mentions ++ v.mentions ++ entryMentions rest

def argumentMentions : List (Option String × Expr) → List String
  | [] => []
  | (_, e) :: rest => e.mentions ++ argumentMentions rest

end

def defaultMentions : List (String × Option Expr) → List String
  | [] => []
  | (_, e) :: rest => optionalMentions e ++ defaultMentions rest

mutual

def Statement.mentions : Statement → List String
  | .text _ => []
  | .print e | .assign _ e | .inclusion e _ => e.mentions
  | .conditional test yes no => test.mentions ++ bodyMentions yes ++ bodyMentions no
  | .loop _ source filter body otherwise =>
    source.mentions ++ optionalMentions filter ++ bodyMentions body ++ bodyMentions otherwise
  | .callBlock callee args parameters body =>
    callee.mentions ++ argumentMentions args ++ defaultMentions parameters ++ bodyMentions body

def bodyMentions : List Statement → List String
  | [] => []
  | s :: rest => s.mentions ++ bodyMentions rest

end

end ContractPress.Template
