import ContractPress.Helper.Binding

/-!
Sets of helpers under the names by which templates call them.
-/

namespace ContractPress

abbrev HelperSet := OrderedMap Template.Helper

namespace HelperSet

open Helper

/-- Adds a helper, or puts it in the place of the one that had its name. -/
def withHelper (set : HelperSet) (name : String) (helper : Template.Helper) : HelperSet :=
  set.insert name helper

/-- Adds the helpers of another set, which win over those of the same name. -/
def merge (set other : HelperSet) : HelperSet :=
  set.insertAll other.entries

/-- The helpers that are always there. -/
def builtin : HelperSet :=
  .ofList [
    ("arrayContains", arrayContainsBinding),
    ("compare", compareBinding),
    ("lowerFirst", lowerFirstBinding),
    ("upperFirst", upperFirstBinding),
    ("lowercase", lowercaseBinding),
    ("uppercase", uppercaseBinding),
    ("capsplit", capsplitBinding),
    ("property", propertyBinding),
    ("withContext", withContextBinding),
    ("withDef", withDefinitionBinding)]

/-- The names between brackets, each in quotes. -/
def namesText (set : HelperSet) : String :=
  "[" ++ ", ".intercalate (set.keys.map Text.quoted) ++ "]"

def debugText (set : HelperSet) : String :=
  "HelperSet \x7b helpers: " ++ namesText set ++ " \x7d"

end HelperSet

end ContractPress
