import ContractPress.File.Access
import ContractPress.Text.Utf8

/-!
Artifacts as files below an output root.

All artifacts of a document are refused if the path of one of them leads out of the root. A file
that is already there stays as it is unless it is to be overwritten.
-/

namespace ContractPress

/-- What became of the artifacts. -/
structure WriteReport where
  written : List String
  /-- The files that were there already and have been kept. -/
  skipped : List String
deriving Repr, DecidableEq

namespace WriteReport

def empty : WriteReport :=
  ⟨[], []⟩

def addWritten (r : WriteReport) (path : String) : WriteReport :=
  { r with written := r.written ++ [path] }

def addSkipped (r : WriteReport) (path : String) : WriteReport :=
  { r with skipped := r.skipped ++ [path] }

end WriteReport

/-- What became of one artifact. -/
inductive Disposition where
  /-- Something was there already. -/
  | kept
  /-- The file would have been written. -/
  | planned
  | written
  | failed
deriving Repr, DecidableEq

namespace Disposition

def record (path : String) : Disposition → WriteReport → WriteReport
  | .kept, r => r.addSkipped path
  | .planned, r | .written, r => r.addWritten path
  | .failed, r => r

def traced (document path contents : String) : Disposition → Traced Unit
  | .kept => .note (.keptFile document path)
  | .planned => .note (.wouldWrite document path (Text.toUtf8 contents).length)
  | .written => .note (.wroteFile document path)
  | .failed => .fail (.write path)

end Disposition

structure FileSink where
  root : String
  /-- Whether files that are already there are overwritten. -/
  force : Bool
  /-- Whether files are only reported and not written. -/
  dryRun : Bool

namespace FileSink

variable {m : Type → Type} [Monad m]

def destination (s : FileSink) (a : Artifact) : String :=
  Path.join s.root a.path

/-- Writes a file and the directories above it. -/
def writeFile (files : FileAccess m) (path contents : String) : m Bool := do
  match Path.parent? path with
  | some directory =>
    if ← files.createDirectories directory then files.write path contents else return false
  | none => files.write path contents

/-- Writes the text of an artifact to a path, unless something is there or nothing is to be written.
-/
def put (s : FileSink) (files : FileAccess m) (path contents : String) : m Disposition := do
  if (← files.occupied path) && !s.force then return .kept
  else if s.dryRun then return .planned
  else if ← writeFile files path contents then return .written
  else return .failed

/-- Writes artifacts up to the first that cannot be written. -/
def putAll (s : FileSink) (files : FileAccess m) (document : String) :
    List Artifact → StateT WriteReport m (Traced Unit)
  | [] => return pure ()
  | a :: rest => do
    let path := s.destination a
    let d ← StateT.lift (s.put files path a.contents)
    modify (d.record path)
    let first := d.traced document path a.contents
    match d with
    | .failed => return first
    | _ =>
      let others ← putAll s files document rest
      return do
        first
        others

/-- Takes the artifacts of a document, unless the path of one leads out of the root. -/
def sink (s : FileSink) (files : FileAccess m) : Sink (StateT WriteReport m) :=
  fun document artifacts =>
    match artifacts.find? fun a => Path.escapesRoot a.path with
    | some a => return .fail (.outputPath document a.path)
    | none => s.putAll files document artifacts

end FileSink

end ContractPress
