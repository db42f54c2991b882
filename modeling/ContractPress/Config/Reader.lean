import ContractPress.Config.Decoder
import ContractPress.Path
import ContractPress.Toml.Reader
import ContractPress.Yaml.Value

/-!
Configurations in YAML and in TOML, and rules in structured data.
-/

namespace ContractPress

namespace Json

def text? : Json → Option String
  | .string s => some s
  | _ => none

def optionalText? : Json → Option (Option String)
  | .null => some none
  | .string s => some (some s)
  | _ => none

def texts? : Json → Option (List String)
  | .array items => items.mapM text?
  | _ => none

def decoder : Decoder Json :=
  ⟨text?, optionalText?, texts?, some, fields?⟩

end Json

namespace Yaml.Node

/-- A plain scalar without any text, which stands for an empty collection. -/
def isVoid : Node → Bool
  | .scalar _ .plain text => text = ""
  | _ => false

/-- The text of a scalar as it is written, whatever it would mean elsewhere. -/
def text? : Node → Option String
  | .scalar _ _ text => some text
  | _ => none

def optionalText? : Node → Option (Option String)
  | .scalar _ .quoted text => some (some text)
  | .scalar none .plain text => some (if text = "" || Scalar.isNull text then none else some text)
  | .scalar (some tag) .plain text =>
    if tag = "tag:yaml.org,2002:null" then if Scalar.isNull text then some none else none
    else some (some text)
  | _ => none

def texts? (n : Node) : Option (List String) :=
  match n with
  | .sequence _ items => items.mapM text?
  | _ => if n.isVoid then some [] else none

def entries? (n : Node) : Option (List (String × Node)) :=
  match n with
  | .mapping _ entries => entries.mapM fun e => do return (← text? e.1, e.2)
  | _ => if n.isVoid then some [] else none

/-- A scalar as structured data. A tag of the application's own is not understood. -/
def scalarJson? (tag : Option String) (style : ScalarStyle) (text : String) : Option Json :=
  match Value.ofNode (.scalar tag style text) with
  | .ok .null => some .null
  | .ok (.bool b) => some (.bool b)
  | .ok (.integer n) => some (.integer n)
  | .ok (.float x) => some (if x.isFinite then .float x else .null)
  | .ok (.string s) => some (.string s)
  | _ => none

/-- The text of a scalar that means a text. -/
def keyText? : Node → Option String
  | .scalar tag style text =>
    match scalarJson? tag style text with
    | some (.string s) => some s
    | _ => none
  | _ => none

mutual

/-- A node as structured data. -/
def json? : Node → Option Json
  | .scalar tag style text => scalarJson? tag style text
  | .sequence tag items =>
    if (Value.ownTag? tag).isSome then none else (itemsJson? items).map .array
  | .mapping tag entries =>
    if (Value.ownTag? tag).isSome then none
    else (entriesJson? entries).map fun fields => .object (Entries.ofList fields)

def itemsJson? : List Node → Option (List Json)
  | [] => some []
  | item :: rest => do return (← json? item) :: (← itemsJson? rest)

def entriesJson? : List (Node × Node) → Option (List (String × Json))
  | [] => some []
  | (key, value) :: rest => do return (← keyText? key, ← json? value) :: (← entriesJson? rest)

end

def decoder : Decoder Node :=
  ⟨text?, optionalText?, texts?, json?, entries?⟩

end Yaml.Node

namespace Toml.Value

def text? : Value → Option String
  | .string s => some s
  | _ => none

def texts? : Value → Option (List String)
  | .array items => items.mapM text?
  | _ => none

def entries? : Value → Option (List (String × Value))
  | .table entries => some entries
  | _ => none

mutual

/-- A value as structured data. A date or time is an object of one field. -/
def json? : Value → Option Json
  | .string s => some (.string s)
  | .integer n => if Yaml.Scalar.fits n then some (.integer n) else none
  | .float x => some (if x.isFinite then .float x else .null)
  | .bool b => some (.bool b)
  | .moment text => some (.object [("$__toml_private_datetime", .string text)])
  | .array items => (itemsJson? items).map .array
  | .table entries => (entriesJson? entries).map .object

def itemsJson? : List Value → Option (List Json)
  | [] => some []
  | item :: rest => do return (← json? item) :: (← itemsJson? rest)

def entriesJson? : List (String × Value) → Option (List (String × Json))
  | [] => some []
  | (key, value) :: rest => do return (key, ← json? value) :: (← entriesJson? rest)

end

def decoder : Decoder Value :=
  ⟨text?, fun v => (text? v).map some, texts?, json?, entries?⟩

end Toml.Value

namespace Config

/-- Checks what has been read. -/
def checked (config : Option Config) : Except ConfigFault Config := do
  match config with
  | none => throw .malformed
  | some c =>
    c.validate
    return c

/-- Reads a configuration in YAML, of which JSON is a special case. -/
def ofYaml (text : String) : Except ConfigFault Config :=
  checked (match Yaml.Node.ofText text fun key => !Decoder.tableNames.contains key with
    | .ok node => Yaml.Node.decoder.config? node
    | .error _ => none)

def ofToml (text : String) : Except ConfigFault Config :=
  checked (Toml.read? text >>= Toml.Value.decoder.config?)

/-- Whether the name of a file says that it holds TOML. -/
def isToml (path : String) : Bool :=
  (Path.extension? path).map String.toLower = some "toml"

/-- Reads the configuration in a file, given its text if it has one. -/
def ofFile (path : String) (text : Option String) : Except ConfigFault Config :=
  match text with
  | none => .error (.unreadable path)
  | some text => (if isToml path then ofToml text else ofYaml text).mapError (.inFile path)

end Config

end ContractPress
