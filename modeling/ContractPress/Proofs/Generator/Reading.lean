import ContractPress.Proofs.Generator.Delivery
import ContractPress.Proofs.Generator.History
import ContractPress.Proofs.Generator.Paths

/-!
Sources that only read.

Such a source may look at all that a run has to do with, the files for instance, and leaves it as it
is. A generator asks it for templates until it has all of them; from the first document that
succeeds on, nothing is asked any more (`generate_of_ready`).
-/

namespace ContractPress

open Std.Do

variable {ρ τ : Type}

/-- A source whose texts are read from a state. -/
def TemplateSource.reading (texts : τ → TemplateSource Id) : TemplateSource (StateM τ) :=
  fun id => do
    return texts (← get) id

theorem TemplateSource.reading_answers (texts : τ → TemplateSource Id) (t : τ) :
    (reading texts).Answers (p := .arg τ .pure) (fun t' => ⌜t' = t⌝) (texts t) := by
  intro id
  refine yields_stateM.mpr fun t' h => ?_
  subst h
  exact ⟨rfl, rfl⟩

namespace Generator

/-- All templates that the configuration asks for are there. -/
def Ready (g : Generator) : Prop :=
  ∀ id ∈ g.config.templates, g.renderer.isCompiled id = true

theorem prepare_of_compiled (texts : TemplateSource Id) {ids : List String} {r : Renderer}
    (h : ∀ id ∈ ids, r.isCompiled id = true) : Renderer.prepare texts ids r = (r, pure ()) := by
  induction ids with
  | nil => rfl
  | cons id ids ih =>
    rw [List.forall_mem_cons] at h
    rw [Renderer.prepare, if_pos h.1, ih h.2]

/-- A generator that has all templates asks for none. -/
theorem generate_of_ready {g : Generator} (h : g.Ready) (texts texts' : TemplateSource Id)
    (name text : String) : g.generate texts name text = g.generate texts' name text := by
  unfold generate generateContract
  cases Contract.parse text with
  | error failure => rfl
  | ok c =>
    dsimp only
    rw [prepare_of_compiled texts h, prepare_of_compiled texts' h]

theorem postProcessor_generate (texts : TemplateSource Id) (g : Generator) (name text : String) :
    (g.generate texts name text).1.postProcessor = g.postProcessor := by
  unfold generate
  cases Contract.parse text <;> rfl

theorem exists_render_of_outcome {texts : TemplateSource Id} {g : Generator} {name text : String}
    {artifacts : List Artifact} (h : g.outcome texts name text = .ok artifacts) :
    ∃ c, ((g.generate texts name text).1.render (.ofContract c)).result = .ok artifacts := by
  rw [outcome, result_generate] at h
  cases hparse : Contract.parse text with
  | error failure =>
    rw [hparse] at h
    cases h
  | ok c =>
    rw [hparse, mapError_eq_ok, result_generateContract, bind_eq_ok] at h
    obtain ⟨-, -, hrender⟩ := h
    refine ⟨c, ?_⟩
    unfold generate
    rw [hparse]
    exact hrender

/-- A generator that has succeeded has all templates. -/
theorem ready_of_outcome {texts : TemplateSource Id} {g : Generator} {name text : String}
    {artifacts : List Artifact} (h : g.outcome texts name text = .ok artifacts) :
    (g.generate texts name text).1.Ready := by
  obtain ⟨c, hrender⟩ := exists_render_of_outcome h
  exact (render_eq_ok.mp hrender).1

end Generator

namespace DeliveryState

theorem generate_reading (texts : τ → TemplateSource Id) (s : DeliveryState ρ τ) (d : Document) :
    s.generate (.reading texts) d =
      (s.generator.outcome (texts s.world) d.name d.text,
        { s with generator := (s.generator.generate (texts s.world) d.name d.text).1 }) := by
  have hyields := Generator.generate_yields (TemplateSource.reading_answers texts s.world)
    s.generator d.name d.text
  rw [yields_stateM] at hyields
  have hrun : (s.generator.generate (.reading texts) d.name d.text).run s.world =
      (s.generator.generate (texts s.world) d.name d.text, s.world) :=
    Prod.ext (hyields s.world rfl).1 (hyields s.world rfl).2
  unfold generate
  rw [hrun]
  rfl

end DeliveryState

end ContractPress
