import ContractPress.Generator.Delivery
import ContractPress.Proofs.Generator.Emission
import ContractPress.Proofs.Results
import Mathlib.Algebra.GroupWithZero.Nat

/-!
Runs over several documents, told document by document.

`Delivered` says that documents are generated and accepted one after the other, `FailsAt` that one
document is not. Whatever generator, source and sink do with their states, a run is the deliveries
of its documents up to its end (`generateAll_eq_ok_iff`) or up to the first that fails
(`generateAll_eq_error_iff`).
-/

namespace ContractPress

variable {ρ τ : Type}

/-- A source in a setting where there is more than it knows of. -/
def TemplateSource.lifted {m : Type → Type} (n : Type → Type) [MonadLiftT m n]
    (source : TemplateSource m) : TemplateSource n := fun id =>
  monadLift (source id)

/-- A sink that keeps to its own state. -/
def Sink.within {m : Type → Type} [Monad m] (sink : Sink (StateM ρ)) : Sink (StateT ρ m) :=
  fun document artifacts kept => Pure.pure ((sink document artifacts).run kept)

/-- A generator, the state of a sink, and what source and sink have in common. -/
structure DeliveryState (ρ τ : Type) where
  generator : Generator
  kept : ρ
  world : τ

namespace DeliveryState

/-- What the generator makes of a document. -/
def generate (source : TemplateSource (StateM τ)) (s : DeliveryState ρ τ) (d : Document) :
    Except Failure (List Artifact) × DeliveryState ρ τ :=
  let generated := (s.generator.generate source d.name d.text).run s.world
  (generated.1.2.result, { s with generator := generated.1.1, world := generated.2 })

/-- What the sink says to the artifacts of a document. -/
def accept (sink : Sink (StateT ρ (StateM τ))) (s : DeliveryState ρ τ) (document : String)
    (artifacts : List Artifact) : Except Failure Unit × DeliveryState ρ τ :=
  let accepted := ((sink document artifacts).run s.kept).run s.world
  (accepted.1.1.result, { s with kept := accepted.1.2, world := accepted.2 })

/-- What a run over documents comes to. -/
def generateAll (source : TemplateSource (StateM τ)) (sink : Sink (StateT ρ (StateM τ)))
    (s : DeliveryState ρ τ) (documents : List Document) :
    Except Failure Nat × DeliveryState ρ τ :=
  let run := ((Generator.generateAll (source.lifted _) sink documents s.generator).run s.kept).run
    s.world
  (run.1.1.2.result, ⟨run.1.1.1, run.1.2, run.2⟩)

/-- The documents have been generated and accepted one after the other, each with these artifacts.
-/
inductive Delivered (source : TemplateSource (StateM τ)) (sink : Sink (StateT ρ (StateM τ))) :
    DeliveryState ρ τ → List (Document × List Artifact) → DeliveryState ρ τ → Prop where
  | nil (s : DeliveryState ρ τ) : Delivered source sink s [] s
  | cons {s s₁ s₂ s₃ : DeliveryState ρ τ} {d : Document} {artifacts : List Artifact}
      {done : List (Document × List Artifact)}
      (generated : s.generate source d = (.ok artifacts, s₁))
      (accepted : s₁.accept sink d.name artifacts = (.ok (), s₂))
      (rest : Delivered source sink s₂ done s₃) :
      Delivered source sink s ((d, artifacts) :: done) s₃

/-- A document is not generated, or it is and its artifacts are not accepted. -/
inductive FailsAt (source : TemplateSource (StateM τ)) (sink : Sink (StateT ρ (StateM τ)))
    (s : DeliveryState ρ τ) (d : Document) : Failure → DeliveryState ρ τ → Prop where
  | generating {cause : Failure} {s' : DeliveryState ρ τ}
      (failed : s.generate source d = (.error (.document d.name cause), s')) :
      FailsAt source sink s d cause s'
  | accepting {artifacts : List Artifact} {cause : Failure} {s₁ s₂ : DeliveryState ρ τ}
      (generated : s.generate source d = (.ok artifacts, s₁))
      (failed : s₁.accept sink d.name artifacts = (.error cause, s₂)) :
      FailsAt source sink s d cause s₂

end DeliveryState

/-! ### Sources in a larger setting -/

section

variable {m n : Type → Type} [Monad m] [Monad n] [MonadLiftT m n] [LawfulMonadLiftT m n]

theorem Renderer.prepare_lifted (source : TemplateSource m) (ids : List String) (r : Renderer) :
    prepare (source.lifted n) ids r = monadLift (prepare source ids r) := by
  induction ids generalizing r with
  | nil => exact (monadLift_pure _).symm
  | cons id ids ih =>
    rw [prepare, prepare]
    split
    · exact ih r
    · rw [monadLift_bind]
      refine bind_congr fun answer => ?_
      cases answer with
      | error fault => exact (monadLift_pure _).symm
      | ok text =>
        dsimp only
        obtain ⟨answer, r'⟩ := r.attempt id text
        cases answer with
        | error failure => exact (monadLift_pure _).symm
        | ok _ =>
          dsimp only
          rw [monadLift_bind, ih]
          exact bind_congr fun prepared => (monadLift_pure _).symm

namespace Generator

theorem generateContract_lifted (source : TemplateSource m) (g : Generator) (c : Contract) :
    g.generateContract (source.lifted n) c = monadLift (g.generateContract source c) := by
  rw [generateContract, generateContract, monadLift_bind, Renderer.prepare_lifted]
  exact bind_congr fun prepared => (monadLift_pure _).symm

theorem generate_lifted (source : TemplateSource m) (g : Generator) (name text : String) :
    g.generate (source.lifted n) name text = monadLift (g.generate source name text) := by
  unfold generate
  cases Contract.parse text with
  | error failure => exact (monadLift_pure _).symm
  | ok c =>
    dsimp only
    rw [monadLift_bind, generateContract_lifted]
    exact bind_congr fun generated => (monadLift_pure _).symm

end Generator

end

/-! ### One document after another -/

/-- A run goes on from the states that its first part leaves. -/
theorem run_run_bind {α β : Type} {x : StateT ρ (StateM τ) α} {f : α → StateT ρ (StateM τ) β}
    {r r' : ρ} {t t' : τ} {a : α} (h : (x.run r).run t = ((a, r'), t')) :
    ((x >>= f).run r).run t = ((f a).run r').run t' := by
  rw [StateT.run_bind, StateT.run_bind, h]
  rfl

namespace DeliveryState

variable {source : TemplateSource (StateM τ)} {sink : Sink (StateT ρ (StateM τ))}

/-- Generating leaves a sink alone. -/
theorem kept_of_generate {s s' : DeliveryState ρ τ} {d : Document}
    {answer : Except Failure (List Artifact)} (h : s.generate source d = (answer, s')) :
    s'.kept = s.kept :=
  congrArg (fun answered => answered.2.kept) h.symm

theorem generate_of_parse_error {s : DeliveryState ρ τ} {d : Document} {failure : Failure}
    (h : Contract.parse d.text = .error failure) :
    s.generate source d = (.error (.document d.name failure), s) := by
  rw [generate, Generator.generate, h]
  rfl

/-- Where there is a contract, what is missing is loaded and then all rules are carried out. -/
theorem generate_of_parse_ok {s : DeliveryState ρ τ} {d : Document} {c : Contract}
    (h : Contract.parse d.text = .ok c) :
    s.generate source d =
      let prepared :=
        (Renderer.prepare source s.generator.config.templates s.generator.renderer).run s.world
      let g := { s.generator with renderer := prepared.1.1 }
      ((g.generatePrepared prepared.1.2 c).result.mapError (.document d.name),
        { s with generator := g, world := prepared.2 }) := by
  have hreported := fun (g : Generator) (prepared : Traced Unit) => Generator.result_reported
    (g.generatePrepared prepared c) (.processingContract d.name)
    (.parsedContract c.paths.size c.definitions.size) (.document d.name)
    fun artifacts => .finishedContract d.name artifacts.length
  rw [generate, Generator.generate, h]
  exact Prod.ext (hreported _ _) rfl

theorem generateAll_nil (s : DeliveryState ρ τ) : s.generateAll source sink [] = (.ok 0, s) :=
  rfl

/-- A run goes on with what the first document leaves, unless that document fails. -/
theorem generateAll_cons (s : DeliveryState ρ τ) (d : Document) (documents : List Document) :
    s.generateAll source sink (d :: documents) =
      match s.generate source d with
      | (.error failure, s₁) => (.error failure, s₁)
      | (.ok artifacts, s₁) => match s₁.accept sink d.name artifacts with
        | (.error failure, s₂) => (.error (.document d.name failure), s₂)
        | (.ok (), s₂) =>
          let rest := s₂.generateAll source sink documents
          (rest.1.map (artifacts.length + ·), rest.2) := by
  have hgenerate : ((s.generator.generate (source.lifted (StateT ρ (StateM τ))) d.name d.text).run
      s.kept).run s.world =
      ((((s.generator.generate source d.name d.text).run s.world).1, s.kept),
        ((s.generator.generate source d.name d.text).run s.world).2) := by
    rw [Generator.generate_lifted]
    rfl
  unfold generateAll generate
  rw [Generator.generateAll, run_run_bind hgenerate]
  obtain ⟨⟨g, events, result⟩, world⟩ := (s.generator.generate source d.name d.text).run s.world
  cases result with
  | error failure => rfl
  | ok artifacts =>
    obtain ⟨⟨⟨⟨events', answer⟩, kept⟩, world'⟩, haccept⟩ :
        ∃ accepted, ((sink d.name artifacts).run s.kept).run world = accepted := ⟨_, rfl⟩
    dsimp only
    rw [run_run_bind haccept, accept, haccept]
    cases answer with
    | error failure => rfl
    | ok _ =>
      dsimp only
      rw [run_run_bind rfl]
      rfl

/-- A failing generator names the document. -/
theorem document_of_generate_eq_error {s s' : DeliveryState ρ τ} {d : Document} {failure : Failure}
    (h : s.generate source d = (.error failure, s')) :
    ∃ cause, failure = .document d.name cause := by
  cases hparse : Contract.parse d.text with
  | error fault =>
    rw [generate_of_parse_error hparse] at h
    cases h
    exact ⟨fault, rfl⟩
  | ok c =>
    rw [generate_of_parse_ok hparse] at h
    obtain ⟨cause, -, rfl⟩ := mapError_eq_error.mp (congrArg Prod.fst h)
    exact ⟨cause, rfl⟩

/-- A run succeeds exactly if all documents are delivered, and then it counts their artifacts. -/
theorem generateAll_eq_ok_iff {s s' : DeliveryState ρ τ} {documents : List Document} {total : Nat} :
    s.generateAll source sink documents = (.ok total, s') ↔
      ∃ done, documents = done.map Prod.fst ∧ Delivered source sink s done s' ∧
        total = (done.map fun e => e.2.length).sum := by
  induction documents generalizing s total with
  | nil =>
    rw [generateAll_nil]
    constructor
    · intro h
      cases h
      exact ⟨[], rfl, .nil _, rfl⟩
    · intro h
      obtain ⟨done, hdone, hdelivered, rfl⟩ := h
      obtain rfl := List.map_eq_nil_iff.mp hdone.symm
      cases hdelivered
      rfl
  | cons d documents ih =>
    rw [generateAll_cons]
    constructor
    · intro h
      rcases hgenerate : s.generate source d with ⟨failure | artifacts, s₁⟩
      · rw [hgenerate] at h
        cases h
      rw [hgenerate] at h
      dsimp only at h
      rcases haccept : s₁.accept sink d.name artifacts with ⟨failure | ⟨⟩, s₂⟩
      · rw [haccept] at h
        cases h
      rw [haccept] at h
      dsimp only at h
      obtain ⟨hrest, rfl⟩ := Prod.mk.inj h
      obtain ⟨count, hcount, rfl⟩ := map_eq_ok.mp hrest
      obtain ⟨done, rfl, hdelivered, rfl⟩ := ih.mp (Prod.ext hcount rfl)
      exact ⟨(d, artifacts) :: done, rfl, .cons hgenerate haccept hdelivered, rfl⟩
    · intro h
      obtain ⟨done, hdone, hdelivered, rfl⟩ := h
      cases hdelivered with
      | nil => cases hdone
      | cons hgenerate haccept hrest =>
        obtain ⟨rfl, rfl⟩ := List.cons.inj hdone
        rw [hgenerate]
        dsimp only
        rw [haccept]
        dsimp only
        rw [ih.mpr ⟨_, rfl, hrest, rfl⟩]
        rfl

/-- A run fails exactly if some document fails after those before it have been delivered. -/
theorem generateAll_eq_error_iff {s s' : DeliveryState ρ τ} {documents : List Document}
    {failure : Failure} :
    s.generateAll source sink documents = (.error failure, s') ↔
      ∃ done d later mid cause, documents = done.map Prod.fst ++ d :: later ∧
        Delivered source sink s done mid ∧ FailsAt source sink mid d cause s' ∧
        failure = .document d.name cause := by
  induction documents generalizing s with
  | nil =>
    rw [generateAll_nil]
    refine ⟨nofun, ?_⟩
    intro h
    obtain ⟨done, d, later, -, -, hdocuments, -⟩ := h
    exact absurd hdocuments.symm (List.append_ne_nil_of_right_ne_nil _ (List.cons_ne_nil d later))
  | cons d documents ih =>
    rw [generateAll_cons]
    constructor
    · intro h
      rcases hgenerate : s.generate source d with ⟨failure' | artifacts, s₁⟩
      · rw [hgenerate] at h
        obtain ⟨cause, rfl⟩ := document_of_generate_eq_error hgenerate
        cases h
        exact ⟨[], d, documents, s, cause, rfl, .nil s, .generating hgenerate, rfl⟩
      rw [hgenerate] at h
      dsimp only at h
      rcases haccept : s₁.accept sink d.name artifacts with ⟨failure' | ⟨⟩, s₂⟩
      · rw [haccept] at h
        cases h
        exact ⟨[], d, documents, s, failure', rfl, .nil s, .accepting hgenerate haccept, rfl⟩
      rw [haccept] at h
      dsimp only at h
      obtain ⟨hrest, rfl⟩ := Prod.mk.inj h
      obtain ⟨done, d', later, mid, cause, rfl, hdelivered, hfails, rfl⟩ :=
        ih.mp (Prod.ext (map_eq_error.mp hrest) rfl)
      exact ⟨(d, artifacts) :: done, d', later, mid, cause, rfl,
        .cons hgenerate haccept hdelivered, hfails, rfl⟩
    · intro h
      obtain ⟨done, d', later, mid, cause, hdocuments, hdelivered, hfails, rfl⟩ := h
      cases hdelivered with
      | nil =>
        obtain ⟨rfl, rfl⟩ := List.cons.inj hdocuments
        cases hfails with
        | generating hgenerate => rw [hgenerate]
        | accepting hgenerate haccept =>
          rw [hgenerate]
          dsimp only
          rw [haccept]
      | cons hgenerate haccept hrest =>
        obtain ⟨rfl, rfl⟩ := List.cons.inj hdocuments
        rw [hgenerate]
        dsimp only
        rw [haccept]
        dsimp only
        rw [ih.mpr ⟨_, d', later, mid, cause, rfl, hrest, hfails, rfl⟩]
        rfl

/-- A run over more documents goes on from what the first run leaves, if that succeeds. -/
theorem generateAll_append (s : DeliveryState ρ τ) (documents more : List Document) :
    s.generateAll source sink (documents ++ more) =
      match s.generateAll source sink documents with
      | (.error failure, s') => (.error failure, s')
      | (.ok total, s') =>
        let rest := s'.generateAll source sink more
        (rest.1.map (total + ·), rest.2) := by
  induction documents generalizing s with
  | nil =>
    rw [List.nil_append, generateAll_nil]
    dsimp only
    rcases s.generateAll source sink more with ⟨failure | count, s'⟩
    · rfl
    · simp [Except.map]
  | cons d documents ih =>
    rw [List.cons_append, generateAll_cons, generateAll_cons]
    rcases s.generate source d with ⟨failure | artifacts, s₁⟩
    · rfl
    dsimp only
    rcases s₁.accept sink d.name artifacts with ⟨failure | ⟨⟩, s₂⟩
    · rfl
    dsimp only
    rw [ih]
    rcases s₂.generateAll source sink documents with ⟨failure | total, s₃⟩
    · rfl
    dsimp only [Except.map]
    rcases s₃.generateAll source sink more with ⟨failure | count, s₄⟩
    · rfl
    · simp [Nat.add_assoc]

/-- What generating and accepting keep true a run keeps true. -/
theorem generateAll_invariant {P : DeliveryState ρ τ → Prop}
    (hgenerate : ∀ s d, P s → P (s.generate source d).2)
    (haccept : ∀ s s₁ d artifacts, P s → s.generate source d = (.ok artifacts, s₁) →
      P (s₁.accept sink d.name artifacts).2)
    {s : DeliveryState ρ τ} (h : P s) (documents : List Document) :
    P (s.generateAll source sink documents).2 := by
  induction documents generalizing s with
  | nil => exact h
  | cons d documents ih =>
    have hfirst := hgenerate s d h
    rw [generateAll_cons]
    rcases hgenerated : s.generate source d with ⟨failure | artifacts, s₁⟩
    · rwa [hgenerated] at hfirst
    have hsecond := haccept s s₁ d artifacts h hgenerated
    dsimp only
    rcases haccepted : s₁.accept sink d.name artifacts with ⟨failure | ⟨⟩, s₂⟩
    · rwa [haccepted] at hsecond
    · rw [haccepted] at hsecond
      exact ih hsecond

/-! ### Keeping everything -/

theorem accept_memory (s : DeliveryState (List Artifact) τ) (document : String)
    (artifacts : List Artifact) :
    s.accept Sink.memory.within document artifacts =
      (.ok (), { s with kept := s.kept ++ artifacts }) := rfl

theorem Delivered.kept_memory {s s' : DeliveryState (List Artifact) τ}
    {done : List (Document × List Artifact)} (h : Delivered source Sink.memory.within s done s') :
    s'.kept = s.kept ++ done.flatMap Prod.snd := by
  induction h with
  | nil s => rw [List.flatMap_nil, List.append_nil]
  | cons generated accepted _ ih =>
    rw [accept_memory] at accepted
    cases accepted
    rw [ih, kept_of_generate generated, List.flatMap_cons, List.append_assoc]

/-- What is kept at the end of a run is what was made of the documents before the first that cannot
be generated. -/
theorem generateAll_memory (s : DeliveryState (List Artifact) τ) (documents : List Document) :
    let run := s.generateAll source Sink.memory.within documents
    ∃ done later mid, documents = done.map Prod.fst ++ later ∧
      Delivered source Sink.memory.within s done mid ∧
      run.2.kept = s.kept ++ done.flatMap Prod.snd ∧
      ((later = [] ∧ run.1 = .ok (done.map fun e => e.2.length).sum) ∨
        ∃ d rest cause, later = d :: rest ∧
          (mid.generate source d).1 = .error (.document d.name cause) ∧
          run.1 = .error (.document d.name cause)) := by
  rcases hrun : s.generateAll source Sink.memory.within documents with ⟨failure | total, s'⟩
  · obtain ⟨done, d, later, mid, cause, hdocuments, hdelivered, hfails, rfl⟩ :=
      generateAll_eq_error_iff.mp hrun
    cases hfails with
    | accepting generated failed => cases failed
    | generating failed =>
      refine ⟨done, d :: later, mid, hdocuments, hdelivered, ?_,
        .inr ⟨d, later, cause, rfl, ?_, rfl⟩⟩
      · rw [← hdelivered.kept_memory]
        exact kept_of_generate failed
      · rw [failed]
  · obtain ⟨done, hdocuments, hdelivered, rfl⟩ := generateAll_eq_ok_iff.mp hrun
    refine ⟨done, [], s', ?_, hdelivered, hdelivered.kept_memory, .inl ⟨rfl, rfl⟩⟩
    rw [hdocuments, List.append_nil]

/-- A run generates and delivers document after document, each once and with the artifacts that come
of it, up to the first that fails.

It succeeds exactly if all are delivered, and counts the artifacts; it fails exactly if those before
some document are delivered and that one fails, naming that document, and then it is over. So a sink
that keeps everything keeps what the documents before the first failing one give, and two runs
one after the other leave what one run over all documents leaves. -/
theorem generateAll_delivers (source : TemplateSource (StateM τ))
    (sink : Sink (StateT ρ (StateM τ))) (s : DeliveryState ρ τ)
    (collecting : DeliveryState (List Artifact) τ) (documents more : List Document) :
    (∀ total s', s.generateAll source sink documents = (.ok total, s') ↔
      ∃ done, documents = done.map Prod.fst ∧ Delivered source sink s done s' ∧
        total = (done.map fun e => e.2.length).sum) ∧
    (∀ failure s', s.generateAll source sink documents = (.error failure, s') ↔
      ∃ done d later mid cause, documents = done.map Prod.fst ++ d :: later ∧
        Delivered source sink s done mid ∧ FailsAt source sink mid d cause s' ∧
        failure = .document d.name cause) ∧
    (let run := collecting.generateAll source Sink.memory.within documents
      ∃ done later mid, documents = done.map Prod.fst ++ later ∧
        Delivered source Sink.memory.within collecting done mid ∧
        run.2.kept = collecting.kept ++ done.flatMap Prod.snd ∧
        ((later = [] ∧ run.1 = .ok (done.map fun e => e.2.length).sum) ∨
          ∃ d rest cause, later = d :: rest ∧
            (mid.generate source d).1 = .error (.document d.name cause) ∧
            run.1 = .error (.document d.name cause))) ∧
    s.generateAll source sink (documents ++ more) =
      match s.generateAll source sink documents with
      | (.error failure, s') => (.error failure, s')
      | (.ok total, s') =>
        let rest := s'.generateAll source sink more
        (rest.1.map (total + ·), rest.2) := by
  refine ⟨fun total s' => ?_, fun failure s' => ?_, ?_, ?_⟩
  · exact generateAll_eq_ok_iff
  · exact generateAll_eq_error_iff
  · exact generateAll_memory collecting documents
  · exact s.generateAll_append documents more

end DeliveryState

end ContractPress
