import ContractPress.Proofs.Generator.Reading

/-!
Runs in which nothing that is handed over is read again.

With a source that only reads, all templates are there once the first document has succeeded, and
what comes before that changes nothing (`Generator.Settled`). So a run hands over what the
documents give in the state before it, whatever the sink does to that state
(`DeliveryState.generateAll_reading`).
-/

namespace ContractPress

variable {ρ τ : Type} {m : Type → Type} [Monad m]

/-- Hands over batches that have been made, up to one that could not be made or is not taken, and
counts the artifacts. -/
def handOver (sink : Sink m) :
    List (String × Except Failure (List Artifact)) → m (Except Failure Nat)
  | [] => return .ok 0
  | (_, .error failure) :: _ => return .error failure
  | (document, .ok artifacts) :: rest => do
    match (← sink document artifacts).result with
    | .error failure => return .error (.document document failure)
    | .ok () => return (← handOver sink rest).map (artifacts.length + ·)

namespace Generator

/-- What a generator makes of documents, each taken by itself. -/
def batches (first : Generator) (texts : TemplateSource Id) (documents : List Document) :
    List (String × Except Failure (List Artifact)) :=
  documents.map fun d => (d.name, first.outcome texts d.name d.text)

/-- What is made of documents depends no more on what the state is now: it is still that from which
the texts are read, or all templates are there. -/
structure Settled (texts : τ → TemplateSource Id) (t : τ) (first g : Generator) (now : τ) :
    Prop where
  cached : Cached (texts t) first g
  steady : now = t ∨ g.Ready

namespace Settled

variable {texts : τ → TemplateSource Id} {t now : τ} {first g : Generator}

theorem refl (texts : τ → TemplateSource Id) (t : τ) (g : Generator) : Settled texts t g g t :=
  ⟨.inl rfl, .inl rfl⟩

theorem generate_eq (h : Settled texts t first g now) (name text : String) :
    g.generate (texts now) name text = g.generate (texts t) name text := by
  rcases h.steady with rfl | hready
  · rfl
  · exact generate_of_ready hready _ _ name text

theorem outcome_eq (h : Settled texts t first g now) (name text : String) :
    g.outcome (texts now) name text = first.outcome (texts t) name text := by
  rw [outcome, h.generate_eq]
  exact h.cached.outcome_eq name text

/-- After a success the state may change as it likes. -/
theorem generate (h : Settled texts t first g now) {name text : String}
    {artifacts : List Artifact} (hok : first.outcome (texts t) name text = .ok artifacts)
    (next : τ) : Settled texts t first (g.generate (texts now) name text).1 next := by
  refine ⟨?_, .inr ?_⟩
  · rw [h.generate_eq]
    exact h.cached.generate name text
  · rw [← h.outcome_eq] at hok
    exact ready_of_outcome hok

end Settled

end Generator

namespace DeliveryState

open Generator (Settled)

variable {texts : τ → TemplateSource Id} {sink : Sink (StateT ρ (StateM τ))} {t : τ}
  {first : Generator}

theorem generate_of_settled {s : DeliveryState ρ τ}
    (h : Settled texts t first s.generator s.world) (d : Document) :
    s.generate (.reading texts) d = (first.outcome (texts t) d.name d.text,
      { s with generator := (s.generator.generate (texts s.world) d.name d.text).1 }) := by
  rw [generate_reading, h.outcome_eq]

/-- A run goes as if everything had been made beforehand. -/
theorem generateAll_of_settled {s : DeliveryState ρ τ}
    (h : Settled texts t first s.generator s.world) (documents : List Document) :
    let run := s.generateAll (.reading texts) sink documents
    ((run.1, run.2.kept), run.2.world) =
      ((handOver sink (first.batches (texts t) documents)).run s.kept).run s.world := by
  induction documents generalizing s with
  | nil => rfl
  | cons d documents ih =>
    intro run
    have hrun : run = _ := generateAll_cons s d documents
    rw [generate_of_settled h] at hrun
    rw [Generator.batches, List.map_cons]
    cases houtcome : first.outcome (texts t) d.name d.text with
    | error failure =>
      rw [houtcome] at hrun
      rw [hrun]
      rfl
    | ok artifacts =>
      rw [houtcome] at hrun
      obtain ⟨⟨⟨events, result⟩, kept⟩, world, haccept⟩ :
          ∃ x world, ((sink d.name artifacts).run s.kept).run s.world = (x, world) := ⟨_, _, rfl⟩
      rw [handOver, run_run_bind haccept]
      dsimp only [accept] at hrun
      rw [haccept] at hrun
      cases result with
      | error failure =>
        rw [hrun]
        rfl
      | ok _ =>
        have hrest := ih (s := ⟨_, kept, world⟩) (h.generate houtcome world)
        rw [hrun]
        dsimp only
        rw [← Generator.batches, run_run_bind hrest.symm]
        rfl

/-- Each document gives what the generator makes of it in the state before the run. -/
theorem outcome_of_delivered {s s' : DeliveryState ρ τ}
    {done : List (Document × List Artifact)} (hdone : Delivered (.reading texts) sink s done s')
    (h : Settled texts t first s.generator s.world) :
    (∀ e ∈ done, first.outcome (texts t) e.1.name e.1.text = .ok e.2) ∧
      ∀ d, (s'.generate (.reading texts) d).1 = first.outcome (texts t) d.name d.text := by
  induction hdone with
  | nil s =>
    refine ⟨nofun, fun d => ?_⟩
    rw [generate_of_settled h]
  | @cons s s₁ s₂ s₃ d artifacts done generated accepted _ ih =>
    rw [generate_of_settled h] at generated
    obtain ⟨hok, rfl⟩ := Prod.mk.inj generated
    obtain rfl : _ = s₂ := congrArg Prod.snd accepted
    obtain ⟨hdone, hnext⟩ := ih (h.generate hok _)
    exact ⟨List.forall_mem_cons.mpr ⟨hok, hdone⟩, hnext⟩

end DeliveryState

end ContractPress
