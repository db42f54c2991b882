import ContractPress.Template.Fault
import ContractPress.Text.Quoted
import ContractPress.Yaml.Value

/-!
The ways in which a run can fail, and their messages.

The wording of faults that lie outside this library (the reader of a data format, the template
engine, the file system) is not part of a message: a mark in angle brackets stands for it.
-/

namespace ContractPress

/-- What keeps a text from being a contract. -/
inductive ParseFault where
  | malformed
  /-- A number that has no place in a JSON value, under its written name. -/
  | unrepresentable (name : String)
  /-- A sequence or a mapping as a key, without the tags around it. -/
  | unsupportedKey (key : Yaml.Value)
  | rootNotMapping
  | pathsMissing
  | pathsNotMapping
  | definitionsNotMapping
  | unreadableFile (path : String)
  | unreadableDocument
  | stated (reason : String)
deriving Repr, DecidableEq

def ParseFault.message : ParseFault → String
  | .malformed => "<yaml>"
  | .unrepresentable name => "unrepresentable number `" ++ name ++ "`"
  | .unsupportedKey _ => "unsupported mapping key: <key>"
  | .rootNotMapping => "contract root must be a mapping"
  | .pathsMissing => "missing `paths` mapping"
  | .pathsNotMapping => "`paths` must be a mapping"
  | .definitionsNotMapping => "`definitions` must be a mapping"
  | .unreadableFile path => "cannot read " ++ path ++ ": <io>"
  | .unreadableDocument => "cannot read contract: <io>"
  | .stated reason => reason

/-- What keeps a text from being a configuration. -/
inductive ConfigFault where
  | malformed
  | blankGroupBy (template : String)
  | unreadable (path : String)
  | inFile (path : String) (fault : ConfigFault)
  | stated (reason : String)
deriving Repr, DecidableEq

def ConfigFault.message : ConfigFault → String
  | .malformed => "<syntax>"
  | .blankGroupBy template => "perPath `" ++ template ++ "`: groupBy must not be empty"
  | .unreadable path => "cannot read " ++ path ++ ": <io>"
  | .inFile path fault => path ++ ": " ++ fault.message
  | .stated reason => reason

/-- Why a template has no source. -/
inductive SourceFault where
  | notInMemory (template : String)
  | unreadable
deriving Repr, DecidableEq

def SourceFault.message : SourceFault → String
  | .notInMemory template => "no inline template `" ++ template ++ "`"
  | .unreadable => "<io>"

inductive Failure where
  | parse (fault : ParseFault)
  | templateLoad (template : String) (fault : SourceFault)
  | templateCompile (template : String) (fault : Template.Fault)
  /-- `item` is the definition or the group that was rendered. -/
  | templateRender (template item : String) (fault : Template.Fault)
  /-- An operation has a grouping value neither of its own nor of its path. -/
  | grouping (path verb field : String)
  | config (fault : ConfigFault)
  /-- The path of an artifact leads out of the output root. -/
  | outputPath (item path : String)
  | write (path : String)
  /-- The failure of one document among several. -/
  | document (name : String) (cause : Failure)
deriving Repr, DecidableEq

namespace Failure

def message : Failure → String
  | .parse fault => "failed to parse contract: " ++ fault.message
  | .templateLoad template fault =>
    "failed to read template `" ++ template ++ "`: " ++ fault.message
  | .templateCompile template _ => "failed to compile template `" ++ template ++ "`: <engine>"
  | .templateRender template item _ =>
    "failed to render template `" ++ template ++ "` for `" ++ item ++ "`: <engine>"
  | .grouping path verb field =>
    "cannot map path operation " ++ path ++ "/" ++ verb ++ ": no `" ++ field ++
      "` value at path/operation level"
  | .config fault => "invalid generator configuration: " ++ fault.message
  | .outputPath item path =>
    "artifact path for `" ++ item ++ "` escapes the output root: " ++ Text.quoted path
  | .write path => "failed to write artifact " ++ Text.quoted path ++ ": <io>"
  | .document name cause => "failed to process contract `" ++ name ++ "`: " ++ cause.message

/-- The innermost failure. -/
def root : Failure → Failure
  | .document _ cause => cause.root
  | failure => failure

end Failure

end ContractPress
