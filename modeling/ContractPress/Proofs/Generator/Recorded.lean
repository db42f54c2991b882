import ContractPress.Proofs.Generator.Delivery
import ContractPress.Proofs.Generator.Inquiries
import ContractPress.Proofs.Template.Faults

/-!
What a generator asks its source over its whole life.

A generator is used in any way while its source changes (`Step`). At any time its trees are those
of the journal (`DeliveryState.Recorded`), so the next contract asks for what has never been
compiled (`DeliveryState.Generates`).
-/

namespace ContractPress

open Inquiry (firstTree? missing)

variable {ρ τ : Type}

/-! ### Templates that were not compiled -/

/-- What is met where a template is rendered that was not compiled. -/
def Failure.notCompiled (id : String) : Failure :=
  .templateCompile id ⟨.templateNotFound, some "template was not compiled"⟩

/-- Inquiries fail otherwise. -/
theorem Inquiry.compiled_ne_notCompiled (q : Inquiry) (id : String) :
    q.compiled ≠ .error (.notCompiled id) := by
  obtain ⟨id', answer⟩ := q
  cases answer with
  | error fault => exact nofun
  | ok text =>
    intro h
    rw [compiled_mk_ok, mapError_eq_error] at h
    obtain ⟨fault, hparse, he⟩ := h
    have hdetail := Template.Parser.detail_of_parse_error hparse
    rw [Failure.notCompiled, Failure.templateCompile.injEq] at he
    rw [he.2] at hdetail
    cases hdetail

namespace Generator

variable {g : Generator} {s : Subject} {id : String}

/-- The post-processor itself says so. -/
def ClaimsNotCompiled (g : Generator) (id : String) : Prop :=
  ∃ process a, g.postProcessor = some process ∧ process a = .error (.notCompiled id)

theorem claimsNotCompiled_of_carryOut {tree : Template.Tree} {t : Task}
    (h : (g.carryOut tree t).result = .error (.notCompiled id)) : g.ClaimsNotCompiled id := by
  simp only [carryOut, Traced.result_bind, Traced.result_note, Traced.result_ofResult,
    bind_eq_error] at h
  obtain h | ⟨-, -, h | ⟨contents, -, h | ⟨-, -, h⟩⟩⟩ := h
  · cases h
  · obtain ⟨fault, -, he⟩ := mapError_eq_error.mp h
    cases he
  · cases h
  · unfold finish checkPath at h
    cases hpost : g.postProcessor with
    | none =>
      rw [hpost] at h
      dsimp only at h
      split at h <;> cases h
    | some process =>
      rw [hpost] at h
      obtain h | ⟨a, -, h⟩ := bind_eq_error.mp h
      · exact ⟨process, _, hpost, h⟩
      · split at h <;> cases h

theorem claimsNotCompiled_of_mapM {tree : Template.Tree} {tasks : List Task}
    (h : (tasks.mapM (g.carryOut tree)).result = .error (.notCompiled id)) :
    g.ClaimsNotCompiled id := by
  rw [Traced.result_mapM, mapM_eq_error] at h
  obtain ⟨-, t, -, -, -, ht⟩ := h
  exact claimsNotCompiled_of_carryOut ht

theorem claimsNotCompiled_of_renderDefinitions {template : String} {rule : DefinitionRule}
    (hcompiled : g.renderer.isCompiled template = true)
    (h : (g.renderDefinitions s template rule).result = .error (.notCompiled id)) :
    g.ClaimsNotCompiled id := by
  obtain ⟨tree, htree⟩ := Option.isSome_iff_exists.mp hcompiled
  simp only [renderDefinitions, Traced.result_bind, Traced.result_note, Traced.result_ofResult,
    bind_eq_error, template_eq_ok.mpr htree] at h
  obtain h | ⟨-, -, h | ⟨tree', -, h⟩⟩ := h
  · cases h
  · cases h
  · exact claimsNotCompiled_of_mapM h

theorem claimsNotCompiled_of_renderGroups {template : String} {rule : RouteRule}
    (hcompiled : g.renderer.isCompiled template = true)
    (h : (g.renderGroups s template rule).result = .error (.notCompiled id)) :
    g.ClaimsNotCompiled id := by
  obtain ⟨tree, htree⟩ := Option.isSome_iff_exists.mp hcompiled
  simp only [renderGroups, Traced.result_bind, Traced.result_note, Traced.result_ofResult,
    bind_eq_error, template_eq_ok.mpr htree, RouteGroups.traced, RouteGroups.ofContract,
    mapM_eq_error] at h
  obtain h | ⟨tree', -, (⟨-, op, -, -, -, h⟩ | ⟨assigned, -, h⟩) | ⟨groups, -, h | ⟨-, -, h⟩⟩⟩ := h
  · cases h
  · unfold Operation.assign at h
    split at h <;> cases h
  · cases h
  · cases h
  · exact claimsNotCompiled_of_mapM h

/-- If all templates have been compiled, the rules do not fail for want of one. -/
theorem claimsNotCompiled_of_render
    (hcompiled : ∀ template ∈ g.config.templates, g.renderer.isCompiled template = true)
    (h : (g.render s).result = .error (.notCompiled id)) : g.ClaimsNotCompiled id := by
  have htemplates : (∀ e ∈ g.config.perDefinition.entries, g.renderer.isCompiled e.1 = true) ∧
      ∀ e ∈ g.config.perPath.entries, g.renderer.isCompiled e.1 = true := by
    simpa only [Config.templates, OrderedMap.keys, Entries.keys, List.forall_mem_append,
      List.forall_mem_map] using hcompiled
  unfold render at h
  split at h
  · cases h
  simp only [Traced.result_bind, Traced.result_mapM, Traced.result_pure, bind_eq_error,
    mapM_eq_error] at h
  obtain ⟨before, e, after, he, -, h⟩ |
    ⟨ofDefinitions, -, ⟨before, e, after, he, -, h⟩ | ⟨ofGroups, -, h⟩⟩ := h
  · refine claimsNotCompiled_of_renderDefinitions (htemplates.1 e ?_) h
    rw [he]
    exact List.mem_append_right _ List.mem_cons_self
  · refine claimsNotCompiled_of_renderGroups (htemplates.2 e ?_) h
    rw [he]
    exact List.mem_append_right _ List.mem_cons_self
  · cases h

end Generator

/-! ### Histories with a journal -/

namespace DeliveryState

/-- What the generator makes of a contract. -/
def generateContract (source : TemplateSource (StateM τ)) (s : DeliveryState ρ τ) (c : Contract) :
    Except Failure (List Artifact) × DeliveryState ρ τ :=
  let generated := (s.generator.generateContract source c).run s.world
  (generated.1.2.result, { s with generator := generated.1.1, world := generated.2 })

/-- A document is generated as its contract, and the failure names it. -/
theorem generate_eq_generateContract {source : TemplateSource (StateM τ)} {d : Document}
    {c : Contract} (h : Contract.parse d.text = .ok c) (s : DeliveryState ρ τ) :
    s.generate source d = ((s.generateContract source c).1.mapError (.document d.name),
      (s.generateContract source c).2) := by
  rw [generate_of_parse_ok h]
  rfl

/-- A generator that was made of these parts has the trees of the journal. -/
structure Recorded (config : Config) (helpers : HelperSet) (post : Option PostProcessor)
    (s : DeliveryState ρ (τ × List Inquiry)) : Prop where
  generator : ∃ trees, s.generator = ⟨config, ⟨helpers, trees⟩, post⟩
  remembers : s.generator.renderer.Remembers s.world.2

/-- A contract has been generated: what was missing was asked for up to the first that failed, and
if none failed all rules were carried out with the trees that there were then. -/
def Generates (config : Config) (s : DeliveryState ρ (τ × List Inquiry)) (c : Contract)
    (result : Except Failure (List Artifact)) (s' : DeliveryState ρ (τ × List Inquiry)) : Prop :=
  ∃ asked answer, s'.world.2 = s.world.2 ++ asked ∧
    Asked (missing s.world.2 config.templates) asked answer ∧
    (asked.map Inquiry.id).Sublist config.templates ∧ (asked.map Inquiry.id).Nodup ∧
    result = answer >>= fun _ => (s'.generator.render (.ofContract c)).result

variable {config : Config} {helpers : HelperSet} {post : Option PostProcessor}
  {source : TemplateSource (StateM τ)} {s : DeliveryState ρ (τ × List Inquiry)}

namespace Recorded

theorem generateContract (h : s.Recorded config helpers post) (c : Contract) :
    (s.generateContract source.recorded c).2.Recorded config helpers post ∧
      s.Generates config c (s.generateContract source.recorded c).1
        (s.generateContract source.recorded c).2 := by
  obtain ⟨⟨trees, hgenerator⟩, hremembers⟩ := h
  rw [hgenerator] at hremembers
  obtain ⟨trees', prepared, t', asked, hrun, hremembers', hasked⟩ :=
    Renderer.prepare_recorded source config.templates hremembers s.world.1
  have hgenerate : s.generateContract source.recorded c =
      ((Generator.generatePrepared ⟨config, ⟨helpers, trees'⟩, post⟩ prepared c).result,
        ⟨⟨config, ⟨helpers, trees'⟩, post⟩, s.kept, t', s.world.2 ++ asked⟩) := by
    rw [DeliveryState.generateContract, Generator.generateContract, hgenerator]
    rw [run_bind_of_run hrun]
    rfl
  rw [hgenerate]
  refine ⟨⟨⟨trees', rfl⟩, hremembers'⟩, asked, prepared.result, rfl, hasked, ?_, ?_, ?_⟩
  · exact hasked.isPrefix.sublist.trans (Inquiry.missing_sublist _ _)
  · exact hasked.isPrefix.sublist.nodup (Inquiry.nodup_missing _ _)
  · exact Generator.result_generatePrepared _ _ _

theorem generate (h : s.Recorded config helpers post) (d : Document) :
    (s.generate source.recorded d).2.Recorded config helpers post := by
  cases hparse : Contract.parse d.text with
  | error failure =>
    rw [generate_of_parse_error hparse]
    exact h
  | ok c =>
    rw [generate_eq_generateContract hparse]
    exact (h.generateContract c).1

theorem accept (h : s.Recorded config helpers post) (sink : Sink (StateT ρ (StateM τ)))
    (document : String) (artifacts : List Artifact) :
    (s.accept sink.unrecorded document artifacts).2.Recorded config helpers post :=
  ⟨h.generator, h.remembers⟩

theorem generateAll (h : s.Recorded config helpers post) (sink : Sink (StateT ρ (StateM τ)))
    (documents : List Document) :
    (s.generateAll source.recorded sink.unrecorded documents).2.Recorded config helpers post := by
  refine generateAll_invariant (fun s d h => h.generate d) (fun s s₁ d artifacts h hs₁ => ?_) h _
  have hgenerated : (s.generate source.recorded d).2.Recorded config helpers post := h.generate d
  rw [hs₁] at hgenerated
  exact hgenerated.accept sink d.name artifacts

theorem delivered (h : s.Recorded config helpers post) {sink : Sink (StateT ρ (StateM τ))}
    {done : List (Document × List Artifact)} {s' : DeliveryState ρ (τ × List Inquiry)}
    (hdone : Delivered source.recorded sink.unrecorded s done s') :
    s'.Recorded config helpers post := by
  induction hdone with
  | nil => exact h
  | @cons s s₁ s₂ s₃ d artifacts done generated accepted _ ih =>
    have hgenerated : (s.generate source.recorded d).2.Recorded config helpers post := h.generate d
    rw [generated] at hgenerated
    have haccepted := hgenerated.accept sink d.name artifacts
    rw [accepted] at haccepted
    exact ih haccepted

end Recorded

end DeliveryState

/-- What may happen to a generator and to the source that it asks. -/
inductive Step (ρ τ : Type) where
  | generate (d : Document)
  | generateContract (c : Contract)
  | generateAll (documents : List Document) (sink : Sink (StateT ρ (StateM τ)))
  /-- The rules are carried out with the trees that there are, which leaves everything as it is. -/
  | render (subject : Subject)
  | change (f : τ → τ)

namespace Step

open DeliveryState

variable (source : TemplateSource (StateM τ))

def perform (s : DeliveryState ρ (τ × List Inquiry)) : Step ρ τ → DeliveryState ρ (τ × List Inquiry)
  | .generate d => (s.generate source.recorded d).2
  | .generateContract c => (s.generateContract source.recorded c).2
  | .generateAll documents sink => (s.generateAll source.recorded sink.unrecorded documents).2
  | .render _ => s
  | .change f => { s with world := (f s.world.1, s.world.2) }

theorem perform_recorded {config : Config} {helpers : HelperSet} {post : Option PostProcessor}
    {s : DeliveryState ρ (τ × List Inquiry)} (h : s.Recorded config helpers post)
    (step : Step ρ τ) : (step.perform source s).Recorded config helpers post := by
  cases step with
  | generate d => exact h.generate d
  | generateContract c => exact (h.generateContract c).1
  | generateAll documents sink => exact h.generateAll sink documents
  | render subject => exact h
  | change f => exact ⟨h.generator, h.remembers⟩

end Step

namespace DeliveryState

variable {config : Config} {helpers : HelperSet} {post : Option PostProcessor}
  {source : TemplateSource (StateM τ)} {s : DeliveryState ρ (τ × List Inquiry)}

/-- A new generator, of which nothing has been asked and which has asked for nothing. -/
def start (config : Config) (helpers : HelperSet) (post : Option PostProcessor) (kept : ρ) (t : τ) :
    DeliveryState ρ (τ × List Inquiry) :=
  ⟨.fresh config helpers post, kept, t, []⟩

theorem start_recorded (config : Config) (helpers : HelperSet) (post : Option PostProcessor)
    (kept : ρ) (t : τ) : (start config helpers post kept t).Recorded config helpers post :=
  ⟨⟨.empty, rfl⟩, .new helpers⟩

namespace Recorded

theorem foldl_perform (h : s.Recorded config helpers post) (history : List (Step ρ τ)) :
    (history.foldl (Step.perform source) s).Recorded config helpers post := by
  induction history generalizing s with
  | nil => exact h
  | cons step history ih => exact ih (step.perform_recorded source h)

theorem template_eq (h : s.Recorded config helpers post) (id : String) :
    s.generator.renderer.template id = match firstTree? s.world.2 id with
      | some tree => .ok tree
      | none => .error (.notCompiled id) := by
  rw [Renderer.template, h.remembers.trees]
  rfl

theorem emits_of_render (h : s.Recorded config helpers post) {subject : Subject}
    {artifacts : List Artifact} (hrender : (s.generator.render subject).result = .ok artifacts) :
    ∃ groups, List.Forall₂ (fun t a => ∃ tree contents,
        firstTree? s.world.2 t.template = some tree ∧
        Template.render ⟨helpers, s.generator.renderer.templates, t.context⟩ tree = .ok contents ∧
        post.getD .ok ⟨t.path, contents⟩ = .ok a)
      (subject.tasks config groups) artifacts := by
  obtain ⟨-, groups, -, hemits⟩ := Generator.render_eq_ok.mp hrender
  have hremembers := h.remembers.trees
  obtain ⟨⟨trees, hgenerator⟩, -⟩ := h
  rw [hgenerator] at hemits hremembers ⊢
  refine ⟨groups, hemits.imp fun t a => ?_⟩
  intro hta
  obtain ⟨tree, contents, htree, hrender, hprocessed, -⟩ := hta
  refine ⟨tree, contents, (hremembers t.template).symm.trans htree, hrender, ?_⟩
  cases post <;> exact hprocessed

/-- Preparing compiles all templates, or it fails as some inquiry. -/
theorem claimsNotCompiled (h : s.Recorded config helpers post) (c : Contract) {id : String}
    (hresult : (s.generateContract source.recorded c).1 = .error (.notCompiled id)) :
    ∃ process a, post = some process ∧ process a = .error (.notCompiled id) := by
  have hgenerates : s.Generates config c (s.generateContract source.recorded c).1
      (s.generateContract source.recorded c).2 := (h.generateContract c).2
  have hrecorded : (s.generateContract source.recorded c).2.Recorded config helpers post :=
    (h.generateContract c).1
  obtain ⟨asked, answer, hworld, hasked, -, -, he⟩ := hgenerates
  rw [he] at hresult
  obtain ⟨⟨trees, hgenerator⟩, hremembers⟩ := hrecorded
  cases answer with
  | error failure =>
    obtain rfl : failure = .notCompiled id := by injection hresult
    obtain ⟨q, -, hq⟩ := hasked.exists_failed
    exact absurd hq (q.compiled_ne_notCompiled id)
  | ok _ =>
    have hclaims := Generator.claimsNotCompiled_of_render ?_ hresult
    · rwa [Generator.ClaimsNotCompiled, hgenerator] at hclaims
    · intro template htemplate
      rw [hgenerator] at htemplate
      rw [hremembers.isCompiled, hworld]
      exact hasked.isSome_firstTree? htemplate

end Recorded

/-- Whatever has been done with a generator, and whatever has become of its source, also between two
documents of one run: no template has been asked for again after it was compiled, and all renderings
take the trees that were compiled first.

A contract asks for what is missing, in the order of the rules and up to the first that fails; a
text that is no contract asks for nothing. That a template was not compiled is never what fails,
unless the post-processor itself says so. -/
theorem inquiries_of_history (source : TemplateSource (StateM τ)) (config : Config)
    (helpers : HelperSet) (post : Option PostProcessor) (kept : ρ) (t : τ)
    (history : List (Step ρ τ)) (sink : Sink (StateT ρ (StateM τ)))
    {done : List (Document × List Artifact)} {s : DeliveryState ρ (τ × List Inquiry)}
    (h : Delivered source.recorded sink.unrecorded
      (history.foldl (Step.perform source) (start config helpers post kept t)) done s) :
    s.Recorded config helpers post ∧
    (∀ id, s.generator.renderer.template id = match firstTree? s.world.2 id with
      | some tree => .ok tree
      | none => .error (.notCompiled id)) ∧
    (∀ subject artifacts, (s.generator.render subject).result = .ok artifacts →
      ∃ groups, List.Forall₂ (fun t a => ∃ tree contents,
          firstTree? s.world.2 t.template = some tree ∧
          Template.render ⟨helpers, s.generator.renderer.templates, t.context⟩ tree =
            .ok contents ∧
          post.getD .ok ⟨t.path, contents⟩ = .ok a)
        (subject.tasks config groups) artifacts) ∧
    (∀ c, let generated := s.generateContract source.recorded c
      generated.2.Recorded config helpers post ∧ s.Generates config c generated.1 generated.2 ∧
      ∀ id, generated.1 = .error (.notCompiled id) →
        ∃ process a, post = some process ∧ process a = .error (.notCompiled id)) ∧
    ∀ d, let generated := s.generate source.recorded d
      match Contract.parse d.text with
      | .error failure => generated = (.error (.document d.name failure), s)
      | .ok c => generated = ((s.generateContract source.recorded c).1.mapError (.document d.name),
          (s.generateContract source.recorded c).2) ∧
        ∀ id, generated.1 = .error (.document d.name (.notCompiled id)) →
          ∃ process a, post = some process ∧ process a = .error (.notCompiled id) := by
  have hs := ((start_recorded config helpers post kept t).foldl_perform history).delivered h
  refine ⟨hs, hs.template_eq, fun subject artifacts => hs.emits_of_render,
    fun c => ⟨(hs.generateContract c).1, (hs.generateContract c).2, fun id => ?_⟩, fun d => ?_⟩
  · exact hs.claimsNotCompiled c
  · intro generated
    cases hparse : Contract.parse d.text with
    | error failure => exact generate_of_parse_error hparse
    | ok c =>
      refine ⟨generate_eq_generateContract hparse s, fun id hid => ?_⟩
      have hgenerated : generated = _ := generate_eq_generateContract hparse s
      rw [hgenerated, mapError_eq_error] at hid
      obtain ⟨failure, hfailure, he⟩ := hid
      cases he
      exact hs.claimsNotCompiled c hfailure

/-- A source that fails, fails at the second of two templates, and then changes: each template is
asked for until it compiles, and the later texts of the first make no difference. -/
theorem artifacts_of_changing_source :
    let source : TemplateSource (StateM Nat) := fun id n =>
      (if n = 0 ∨ n = 1 ∧ id = "b" then .error .unreadable else .ok (id ++ toString n), n)
    let sink : Sink (StateT Unit (StateM Nat)) := fun _ _ kept n =>
      ((pure (), kept), n + 1)
    let rule : DefinitionRule := ⟨"./definitions", ".js", .empty⟩
    let config : Config := ⟨.ofList [("a", rule), ("b", rule)], .empty⟩
    let d : Document := ⟨"d", "paths:\n  /pets: 1\ndefinitions:\n  Pet: 1\n"⟩
    let history : List (Step Unit Nat) :=
      [.generate d, .change (· + 1), .generate ⟨"malformed", "["⟩, .generateAll [d] sink,
        .change (· + 1)]
    let first := history.foldl (Step.perform source) (start config .empty none () 0)
    ∃ artifacts s, Delivered source.recorded sink.unrecorded first [(d, artifacts)] s ∧
      artifacts.map Artifact.contents = ["a1", "b2"] ∧
      s.world.2 = [⟨"a", .error .unreadable⟩, ⟨"a", .ok "a1"⟩, ⟨"b", .error .unreadable⟩,
        ⟨"b", .ok "b2"⟩] ∧
      s.generator.renderer.template "a" = .ok [.text "a1"] := by
  intro source sink rule config d history first
  have hresult : (first.generate source.recorded d).1 =
      .ok [⟨"definitions/pet.js", "a1"⟩, ⟨"definitions/pet.js", "b2"⟩] := by decide +kernel
  let s := ((first.generate source.recorded d).2.accept sink.unrecorded d.name []).2
  have hdelivered : Delivered source.recorded sink.unrecorded first
      [(d, [⟨"definitions/pet.js", "a1"⟩, ⟨"definitions/pet.js", "b2"⟩])] s :=
    .cons (Prod.ext hresult rfl) rfl (.nil s)
  have hjournal : s.world.2 = [⟨"a", .error .unreadable⟩, ⟨"a", .ok "a1"⟩,
      ⟨"b", .error .unreadable⟩, ⟨"b", .ok "b2"⟩] := by decide +kernel
  obtain ⟨-, htemplate, -⟩ :=
    inquiries_of_history source config .empty none () 0 history sink hdelivered
  refine ⟨_, s, hdelivered, rfl, hjournal, ?_⟩
  rw [htemplate, hjournal]
  rfl

end DeliveryState

end ContractPress
