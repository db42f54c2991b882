import ContractPress.Config.Reader
import ContractPress.Contract.Reader
import ContractPress.Generator.Delivery

/-!
Files: how they are reached, and what is read from them.
-/

namespace ContractPress

/-- What can be done with files. -/
structure FileAccess (m : Type → Type) where
  /-- The text of a file, if there is one and its octets spell one. -/
  readText? : String → m (Option String)
  /-- Whether there is a file or a directory. -/
  occupied : String → m Bool
  /-- Makes a directory and those above it, as far as they are missing; says whether that is done.
  -/
  createDirectories : String → m Bool
  /-- Gives a file its text; says whether that is done. -/
  write : String → String → m Bool

namespace FileAccess

variable {m : Type → Type} [Monad m]

/-- Sources in files, the paths of which start from a directory. -/
def templates (files : FileAccess m) (root : String) : TemplateSource m := fun id => do
  match ← files.readText? (Path.join root id) with
  | some text => return .ok text
  | none => return .error .unreadable

def readContract (files : FileAccess m) (path : String) : m (Except Failure Contract) := do
  match ← files.readText? path with
  | some text => return Contract.parse text
  | none => return .error (.parse (.unreadableFile path))

def readDocument (files : FileAccess m) (path : String) : m (Except Failure Document) := do
  match ← files.readText? path with
  | some text => return .ok ⟨path, text⟩
  | none => return .error (.document path (.parse .unreadableDocument))

/-- Reads documents up to the first that cannot be read. -/
def readDocuments (files : FileAccess m) : List String → m (Except Failure (List Document))
  | [] => return .ok []
  | path :: paths => do
    match ← files.readDocument path with
    | .error failure => return .error failure
    | .ok document =>
      return (← readDocuments files paths).map (document :: ·)

def readConfig (files : FileAccess m) (path : String) : m (Except Failure Config) := do
  return (Config.ofFile path (← files.readText? path)).mapError .config

end FileAccess

/-- The directory from which a configuration's templates are found: the one that holds it. -/
def templateRoot (configPath : String) : String :=
  match Path.parent? configPath with
  | some directory => if directory = "" then "." else directory
  | none => "."

end ContractPress
