import ContractPress.Path

/-!
Generated files before they are delivered.
-/

namespace ContractPress

/-- A path below some output root, and the text of the file. -/
structure Artifact where
  path : String
  contents : String
deriving Repr, DecidableEq

/-- The normalised path of a file in a target directory. -/
def artifactPath (target fileName : String) : String :=
  Path.ofSegments (Path.normalise (Path.segments (Path.join target fileName)))

end ContractPress
