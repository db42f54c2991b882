import ContractPress.Generator.Basic

/-!
Generating from several documents, and handing over what comes of each.
-/

namespace ContractPress

/-- A contract's text under the name by which reports and failures call it. -/
structure Document where
  name : String
  text : String

/-- What takes the artifacts of a document, all of them at once. -/
abbrev Sink (m : Type → Type) := String → List Artifact → m (Traced Unit)

/-- Keeps all artifacts. -/
def Sink.memory : Sink (StateM (List Artifact)) := fun _ artifacts => do
  modify (· ++ artifacts)
  return pure ()

namespace Generator

variable {m : Type → Type} [Monad m]

/-- Generates document after document and hands over the artifacts of each, up to the first failure;
counts the artifacts. -/
def generateAll (source : TemplateSource m) (sink : Sink m) :
    List Document → Generator → m (Generator × Traced Nat)
  | [], g => return (g, pure 0)
  | d :: ds, g => do
    let (g, generated) ← g.generate source d.name d.text
    match generated.result with
    | .error failure => return (g, ⟨generated.events, .error failure⟩)
    | .ok artifacts =>
      let delivered ← sink d.name artifacts
      match delivered.result with
      | .error failure =>
        return (g, ⟨generated.events ++ delivered.events, .error (.document d.name failure)⟩)
      | .ok () =>
        let (g, rest) ← generateAll source sink ds g
        return (g, ⟨generated.events ++ delivered.events ++ rest.events,
          rest.result.map (artifacts.length + ·)⟩)

end Generator

end ContractPress
