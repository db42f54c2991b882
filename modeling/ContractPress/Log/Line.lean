import ContractPress.Log.Settings

/-!
Events as lines of text: one JSON object for a machine, or words for a reader.
-/

namespace ContractPress.Event

/-- The event as one JSON object. -/
def jsonLine (includeLocation : Bool) (e : Event) : String :=
  Json.render (.object ([("level", .string e.level.name), ("fields", e.fields),
    ("target", .string e.target)] ++
    if includeLocation then [("module_path", .string e.target)] else []))

/-- The event in words. -/
def prettyLine (e : Event) : String :=
  e.level.name ++ " " ++ e.target ++ ": " ++ e.message ++
    String.join (e.details.map fun d => ", " ++ d.1 ++ ": " ++ d.2.render)

def line (s : LogSettings) (e : Event) : String :=
  match s.format with
  | .json => e.jsonLine s.includeLocation
  | .pretty => e.prettyLine

end ContractPress.Event
