import ContractPress.Proofs.Generator.Inquiries
import ContractPress.Proofs.Generator.Requests

/-!
What fails first is what a generator reports.

A contract goes through stages: its text is read, what is missing is loaded and compiled, and for
each file the template is rendered, the artifact is processed and its path is checked. `stages`
lists them in their order without carrying out any rule. A generator goes through them up to the
first that fails, and its failure is that of the stage, with the name of the document around it
(`generate_first_failure`).
-/

namespace ContractPress

variable {τ : Type}

theorem Contract.parse_ne_document (text name : String) (cause : Failure) :
    parse text ≠ .error (.document name cause) := by
  intro h
  unfold parse at h
  split at h
  · obtain ⟨fault, -, h⟩ := mapError_eq_error.mp h
    cases h
  · cases h

namespace Generator

section

variable (g : Generator) (c : Contract)

/-- The tree of a template; each has one once the templates are prepared. -/
def tree (id : String) : Template.Tree :=
  (g.renderer.templates.get? id).getD []

/-- The text of a file; a failure names the template, and what it is rendered for. -/
def textOf (item : String) (q : Request) : Except Failure String :=
  (Template.render ⟨g.renderer.helpers, g.renderer.templates, q.context⟩
    (g.tree q.template)).mapError (.templateRender q.template item)

/-- A file is rendered, then it is processed, and then its path is checked. -/
def fileStages (start : Event) (item : String) (q : Request) : List Stage :=
  let rendered := g.textOf item q
  let processed := rendered >>= fun contents => g.processed ⟨q.path, contents⟩
  let checked := processed >>= fun a =>
    if Path.escapesRoot a.path then .error (.outputPath item a.path) else .ok a
  [Traced.stage ⟨[start], rendered⟩, Traced.stage ⟨[.emittingArtifact q.path], processed⟩,
    Traced.stage ⟨[], checked⟩]

/-- The files of a rule, definition by definition. -/
def definitionStages (template : String) (rule : DefinitionRule) : List Stage :=
  ⟨[.startingDefinitionRule template c.definitions.size], .ok ()⟩ ::
    (c.definitions.keys.zip (c.definitionRequests template rule)).flatMap fun e =>
      g.fileStages (.renderingDefinition (referenceKey e.1)) (referenceKey e.1) e.2

/-- The operations are grouped, and then come the files of the rule, group by group. -/
def groupStages (template : String) (rule : RouteRule) : List Stage :=
  (RouteGroups.traced c rule.groupBy rule.operations).stage ::
    match RouteGroups.ofContract c rule.groupBy rule.operations with
    | .error _ => []
    | .ok groups => ⟨[.startingRouteRule template rule.groupBy groups.size], .ok ()⟩ ::
        (groups.entries.zip (c.groupRequests template rule groups)).flatMap fun e =>
          g.fileStages (.renderingGroup e.1.1 e.1.2.length) e.1.1 e.2

/-- All rules, those of definitions first. -/
def ruleStages : List Stage :=
  if g.config.isEmpty then [⟨[.nothingConfigured], .ok ()⟩]
  else (g.config.perDefinition.entries.flatMap fun e => g.definitionStages c e.1 e.2) ++
    g.config.perPath.entries.flatMap fun e => g.groupStages c e.1 e.2

/-- Everything that is done for a text, if this is asked for on the way. -/
def stages (name text : String) (asked : List Inquiry) : List Stage :=
  match Contract.parse text with
  | .error failure => [⟨[.processingContract name], .error failure⟩]
  | .ok c =>
    ⟨[.processingContract name, .parsedContract c.paths.size c.definitions.size], .ok ()⟩ ::
      (asked.flatMap Inquiry.stages ++
        ⟨DefinitionIndex.events c ++ [.builtIndex c.definitions.size], .ok ()⟩ :: g.ruleStages c)

end

/-! ### Going through the stages -/

theorem forM_note (events : List Event) : events.forM Traced.note = ⟨events, .ok ()⟩ := by
  induction events with
  | nil => rfl
  | cons e events ih =>
    rw [List.forM_eq_forM, List.forM_cons, ← List.forM_eq_forM, ih]
    rfl

section

variable {g : Generator} {c : Contract}

theorem ofResult_template {id : String} (h : g.renderer.isCompiled id = true) :
    Traced.ofResult (g.renderer.template id) = pure (g.tree id) := by
  obtain ⟨tree, htree⟩ := Option.isSome_iff_exists.mp h
  have hget : g.renderer.templates.get? id = some tree := htree
  rw [Renderer.template, Generator.tree, hget]
  rfl

theorem finish_eq (g : Generator) (item : String) (a : Artifact) :
    g.finish item a = g.processed a >>= checkPath item := by
  unfold finish processed
  cases g.postProcessor <;> rfl

theorem performed_carryOut (g : Generator) (t : Task) :
    Performed (g.fileStages t.start t.item t.request) (g.carryOut (g.tree t.template) t) := by
  have htext : g.renderer.renderTree t.template (g.tree t.template) t.context t.item =
      g.textOf t.item t.request := rfl
  rw [carryOut, htext, fileStages]
  cases hrendered : g.textOf t.item t.request with
  | error failure => exact .failed rfl _
  | ok contents =>
    refine .cons (x := .note (.emittingArtifact t.path) >>= fun _ =>
      .ofResult (g.finish t.item ⟨t.path, contents⟩)) rfl ?_
    have hprocess :
        (Except.ok contents >>= fun contents => g.processed ⟨t.request.path, contents⟩) =
          g.processed ⟨t.path, contents⟩ := rfl
    rw [hprocess, finish_eq]
    cases hprocessed : g.processed ⟨t.path, contents⟩ with
    | error failure => exact .failed rfl _
    | ok a => exact .cons rfl (.single ⟨[], checkPath t.item a⟩)

/-- Tasks whose starts, items and requests are these. -/
theorem performed_mapM_carryOut {template : String} {tasks : List Task}
    (htasks : ∀ t ∈ tasks, t.template = template) :
    Performed (tasks.flatMap fun t => g.fileStages t.start t.item t.request)
      (tasks.mapM (g.carryOut (g.tree template))) := by
  refine .mapM fun t ht => ?_
  rw [← htasks t ht]
  exact performed_carryOut g t

theorem size_index_ofContract (c : Contract) :
    (Subject.ofContract c).index.size = c.definitions.size := by
  rw [Subject.ofContract, DefinitionIndex.size, OrderedMap.size,
    DefinitionIndex.entries_ofContract, List.length_map]
  rfl

theorem performed_renderDefinitions {template : String}
    (h : g.renderer.isCompiled template = true) (rule : DefinitionRule) :
    Performed (g.definitionStages c template rule)
      (g.renderDefinitions (.ofContract c) template rule) := by
  have htasks : (c.definitions.keys.zip (c.definitionRequests template rule)).flatMap (fun e =>
        g.fileStages (.renderingDefinition (referenceKey e.1)) (referenceKey e.1) e.2) =
      ((Subject.ofContract c).definitionTasks template rule).flatMap fun t =>
        g.fileStages t.start t.item t.request := by
    rw [← Subject.map_request_definitionTasks, Subject.definitionTasks, Subject.ofContract,
      DefinitionIndex.toList_ofContract, OrderedMap.keys, Entries.keys]
    simp only [List.map_map, List.zip_map', List.flatMap_map]
    rfl
  rw [renderDefinitions, ofResult_template h, size_index_ofContract, definitionStages, htasks]
  exact .cons rfl (performed_mapM_carryOut fun t => Subject.template_of_mem_definitionTasks)

theorem performed_renderGroups {template : String} (h : g.renderer.isCompiled template = true)
    (rule : RouteRule) :
    Performed (g.groupStages c template rule) (g.renderGroups (.ofContract c) template rule) := by
  have htasks : ∀ groups, (groups.entries.zip (c.groupRequests template rule groups)).flatMap
        (fun e => g.fileStages (.renderingGroup e.1.1 e.1.2.length) e.1.1 e.2) =
      ((Subject.ofContract c).groupTasks template rule groups).flatMap fun t =>
        g.fileStages t.start t.item t.request := by
    intro groups
    rw [← Subject.map_request_groupTasks, Subject.groupTasks]
    nth_rewrite 1 [← List.map_id groups.entries]
    simp only [List.map_map, List.zip_map', List.flatMap_map]
    rfl
  rw [renderGroups, ofResult_template h, pure_bind, groupStages]
  refine Performed.bind (.single _) fun groups hgroups => ?_
  have hgroups : RouteGroups.ofContract c rule.groupBy rule.operations = .ok groups := hgroups
  rw [hgroups]
  dsimp only
  rw [htasks]
  exact .cons rfl (performed_mapM_carryOut fun t => Subject.template_of_mem_groupTasks)

theorem performed_render (h : ∀ id ∈ g.config.templates, g.renderer.isCompiled id = true) :
    Performed (g.ruleStages c) (g.render (.ofContract c)) := by
  simp only [Config.templates, OrderedMap.keys, Entries.keys, List.forall_mem_append,
    List.forall_mem_map] at h
  rw [ruleStages, render]
  split
  · exact .cons rfl (.done [])
  · refine .bind (.mapM fun e he => ?_) fun ofDefinitions _ =>
      .bind_pure (.mapM fun e he => ?_) fun ofGroups => _
    · exact performed_renderDefinitions (h.1 e he) e.2
    · exact performed_renderGroups (h.2 e he) e.2

/-- Whatever is asked for, the rules come after it, and then all their templates are compiled. -/
theorem performed_generatePrepared {r : Renderer} {asked : List Inquiry} {prepared : Traced Unit}
    (hprepared : r.Prepared g.config.templates asked prepared.result g.renderer)
    (hasked : Performed (asked.flatMap Inquiry.stages) prepared) (c : Contract) :
    Performed (asked.flatMap Inquiry.stages ++
        ⟨DefinitionIndex.events c ++ [.builtIndex c.definitions.size], .ok ()⟩ :: g.ruleStages c)
      (g.generatePrepared prepared c) := by
  refine hasked.bind fun _ hok => ?_
  rw [hok] at hprepared
  have hrules := performed_render (c := c) fun id hid => hprepared.isCompiled hid
  have hindex : ((DefinitionIndex.events c).forM Traced.note >>= fun _ =>
      Traced.note (.builtIndex (Subject.ofContract c).index.size)) =
      ⟨DefinitionIndex.events c ++ [.builtIndex c.definitions.size], .ok ()⟩ := by
    rw [forM_note, size_index_ofContract]
    rfl
  dsimp only
  rw [← bind_assoc, hindex]
  exact .cons rfl hrules

theorem events_reported (x : Traced (List Artifact)) (e e' : Event) (f : Failure → Failure)
    (last : List Artifact → Event) :
    (do
      .note e
      .note e'
      let artifacts ← x.mapFailure f
      .note (last artifacts)
      return artifacts : Traced (List Artifact)).events =
      [e, e'] ++ x.events ++ match x.result with
        | .ok artifacts => [last artifacts]
        | .error _ => [] := by
  obtain ⟨events, result⟩ := x
  cases result with
  | ok artifacts => rfl
  | error failure => exact (List.append_nil _).symm

/-- A document goes through its stages, and its name is put around what fails. -/
theorem generate_performed (g : Generator) (source : TemplateSource (StateM τ))
    (name text : String) (t : τ) :
    ∃ (r : Renderer) (x done : Traced (List Artifact)) (t' : τ) (asked : List Inquiry),
      (g.generate source name text).run t = (({ g with renderer := r }, x), t') ∧
      (g.generate source.recorded name text).run (t, []) =
        (({ g with renderer := r }, x), t', asked) ∧
      (match Contract.parse text with
        | .error _ => r = g.renderer ∧ t' = t ∧ asked = []
        | .ok _ => ∃ answer, g.renderer.Prepared g.config.templates asked answer r) ∧
      Performed (({ g with renderer := r } : Generator).stages name text asked) done ∧
      x.result = done.result.mapError (.document name) ∧
      x.events = done.events ++ match done.result with
        | .ok artifacts => [.finishedContract name artifacts.length]
        | .error _ => [] := by
  unfold generate stages
  cases hparse : Contract.parse text with
  | error failure =>
    exact ⟨g.renderer, _, ⟨[.processingContract name], .error failure⟩, t, [], rfl, rfl,
      ⟨rfl, rfl, rfl⟩, .failed rfl [], rfl, rfl⟩
  | ok c =>
    obtain ⟨r, prepared, t', asked, hrun, hrecorded, hprepared, hasked⟩ :=
      Renderer.prepare_asks source g.config.templates g.renderer t []
    have hperformed := performed_generatePrepared (g := { g with renderer := r }) hprepared hasked c
    dsimp only [generateContract]
    rw [bind_assoc, run_bind_of_run hrun, bind_assoc, run_bind_of_run hrecorded]
    refine ⟨r, _, _, t', asked, rfl, rfl, ⟨_, hprepared⟩, .cons rfl hperformed, ?_, ?_⟩
    · exact result_reported _ _ _ _ _
    · exact events_reported _ _ _ _ _

/-! ### Whose failures name a document -/

/-- The post-processor itself fails like this. -/
def PostProcessorFails (g : Generator) (failure : Failure) : Prop :=
  ∃ process a, g.postProcessor = some process ∧ process a = .error failure

/-- No stage names a document, unless the post-processor does. -/
def NamesNoDocument (g : Generator) (stages : List Stage) : Prop :=
  ∀ stage ∈ stages, ∀ name cause, stage.result = .error (.document name cause) →
    g.PostProcessorFails (.document name cause)

theorem namesNoDocument_append {stages more : List Stage} :
    g.NamesNoDocument (stages ++ more) ↔ g.NamesNoDocument stages ∧ g.NamesNoDocument more :=
  List.forall_mem_append

theorem namesNoDocument_cons {stage : Stage} {stages : List Stage} :
    g.NamesNoDocument (stage :: stages) ↔ g.NamesNoDocument [stage] ∧ g.NamesNoDocument stages :=
  show g.NamesNoDocument ([stage] ++ stages) ↔ _ from namesNoDocument_append

theorem namesNoDocument_flatMap {α : Type} {items : List α} {stages : α → List Stage}
    (h : ∀ a ∈ items, g.NamesNoDocument (stages a)) : g.NamesNoDocument (items.flatMap stages) := by
  intro stage hstage
  obtain ⟨a, ha, hstage⟩ := List.mem_flatMap.mp hstage
  exact h a ha stage hstage

theorem namesNoDocument_of_ok {events : List Event} : g.NamesNoDocument [⟨events, .ok ()⟩] := by
  intro stage hstage name cause hresult
  obtain rfl := List.mem_singleton.mp hstage
  cases hresult

theorem namesNoDocument_stage {α : Type} {x : Traced α}
    (h : ∀ name cause, x.result = .error (.document name cause) →
      g.PostProcessorFails (.document name cause)) : g.NamesNoDocument [x.stage] := by
  intro stage hstage name cause hresult
  obtain rfl := List.mem_singleton.mp hstage
  exact h name cause (map_eq_error.mp hresult)

theorem namesNoDocument_inquiry (g : Generator) (q : Inquiry) : g.NamesNoDocument q.stages := by
  obtain ⟨id, answer⟩ := q
  cases answer with
  | error fault =>
    intro stage hstage name cause hresult
    obtain rfl := List.mem_singleton.mp hstage
    cases hresult
  | ok text =>
    refine namesNoDocument_cons.mpr ⟨namesNoDocument_of_ok, ?_⟩
    intro stage hstage name cause hresult
    obtain rfl := List.mem_singleton.mp hstage
    dsimp only at hresult
    split at hresult <;> cases hresult

theorem namesNoDocument_file (g : Generator) (start : Event) (item : String) (q : Request) :
    g.NamesNoDocument (g.fileStages start item q) := by
  have hrendered : ∀ name cause, g.textOf item q ≠ .error (.document name cause) := by
    intro name cause h
    obtain ⟨fault, -, h⟩ := mapError_eq_error.mp h
    cases h
  have hprocessed : ∀ name cause, (g.textOf item q >>= fun contents =>
      g.processed ⟨q.path, contents⟩) = .error (.document name cause) →
        g.PostProcessorFails (.document name cause) := by
    intro name cause h
    obtain h | ⟨contents, -, h⟩ := bind_eq_error.mp h
    · exact absurd h (hrendered name cause)
    · unfold processed at h
      split at h
      · rename_i process hprocess
        exact ⟨process, _, hprocess, h⟩
      · cases h
  refine namesNoDocument_cons.mpr ⟨?_, namesNoDocument_cons.mpr ⟨?_, ?_⟩⟩
  · exact namesNoDocument_stage fun name cause h => absurd h (hrendered name cause)
  · exact namesNoDocument_stage hprocessed
  · refine namesNoDocument_stage fun name cause h => ?_
    obtain h | ⟨a, -, h⟩ := bind_eq_error.mp h
    · exact hprocessed name cause h
    · split at h <;> cases h

theorem namesNoDocument_rules (g : Generator) (c : Contract) :
    g.NamesNoDocument (g.ruleStages c) := by
  unfold ruleStages
  split
  · exact namesNoDocument_of_ok
  refine namesNoDocument_append.mpr ⟨namesNoDocument_flatMap fun e _ => ?_,
    namesNoDocument_flatMap fun e _ => ?_⟩
  · refine namesNoDocument_cons.mpr ⟨namesNoDocument_of_ok, namesNoDocument_flatMap fun _ _ => ?_⟩
    exact namesNoDocument_file g _ _ _
  · refine namesNoDocument_cons.mpr ⟨namesNoDocument_stage fun name cause h => ?_, ?_⟩
    · obtain h | ⟨_, -, h⟩ := bind_eq_error.mp h
      · obtain ⟨-, op, -, -, -, hop⟩ := mapM_eq_error.mp h
        unfold Operation.assign at hop
        split at hop <;> cases hop
      · cases h
    · split
      · intro stage hstage
        cases hstage
      · refine namesNoDocument_cons.mpr
          ⟨namesNoDocument_of_ok, namesNoDocument_flatMap fun _ _ => ?_⟩
        exact namesNoDocument_file g _ _ _

theorem namesNoDocument_stages (g : Generator) (name text : String) (asked : List Inquiry) :
    g.NamesNoDocument (g.stages name text asked) := by
  unfold stages
  split
  · rename_i failure hparse
    intro stage hstage name cause hresult
    obtain rfl := List.mem_singleton.mp hstage
    obtain rfl : failure = .document name cause := Except.error.inj hresult
    exact absurd hparse (Contract.parse_ne_document text name cause)
  · refine namesNoDocument_cons.mpr ⟨namesNoDocument_of_ok, namesNoDocument_append.mpr ⟨?_, ?_⟩⟩
    · exact namesNoDocument_flatMap fun q _ => namesNoDocument_inquiry g q
    · exact namesNoDocument_cons.mpr ⟨namesNoDocument_of_ok, namesNoDocument_rules g _⟩

/-- Generation succeeds exactly if none of its stages fails. Otherwise it fails as the first stage
that does, with the name of the document around this once, and nothing has been done after that
stage: neither was anything reported, nor was a template asked for.

What the source is asked for are the templates without a tree, in the order of the rules and up to
the first that fails; the stages of the rules render with what is compiled then. A post-processor is
free to name a document in its turn, but no other stage does. -/
theorem generate_first_failure (g : Generator) (source : TemplateSource (StateM τ))
    (name text : String) (t : τ) :
    ∃ (r : Renderer) (x : Traced (List Artifact)) (t' : τ) (asked : List Inquiry),
      (g.generate source name text).run t = (({ g with renderer := r }, x), t') ∧
      (g.generate source.recorded name text).run (t, []) =
        (({ g with renderer := r }, x), t', asked) ∧
      (match Contract.parse text with
        | .error _ => r = g.renderer ∧ t' = t ∧ asked = []
        | .ok _ => ∃ answer, g.renderer.Prepared g.config.templates asked answer r) ∧
      let stages := ({ g with renderer := r } : Generator).stages name text asked
      ((∃ artifacts, x.result = .ok artifacts) ↔ ∀ stage ∈ stages, stage.result = .ok ()) ∧
      ∀ failure, x.result = .error failure → ∃ before stage after cause,
        stages = before ++ stage :: after ∧ (∀ stage ∈ before, stage.result = .ok ()) ∧
        stage.result = .error cause ∧ failure = .document name cause ∧
        x.events = (before ++ [stage]).flatMap Traced.events ∧
        ∀ name' cause', cause = .document name' cause' → g.PostProcessorFails cause := by
  obtain ⟨r, x, done, t', asked, hrun, hrecorded, hasked, hperformed, hresult, hevents⟩ :=
    generate_performed g source name text t
  refine ⟨r, x, t', asked, hrun, hrecorded, hasked, ?_, fun failure hfailure => ?_⟩
  · simp only [← hperformed.exists_ok_iff, hresult, mapError_eq_ok]
  · rw [hresult, mapError_eq_error] at hfailure
    obtain ⟨cause, hcause, rfl⟩ := hfailure
    obtain ⟨before, stage, after, hstages, hbefore, hstage, hdone⟩ :=
      hperformed.exists_failed hcause
    rw [hcause, List.append_nil, hdone] at hevents
    refine ⟨before, stage, after, cause, hstages, hbefore, hstage, rfl, hevents, ?_⟩
    rintro name' cause' rfl
    have hnames := namesNoDocument_stages { g with renderer := r } name text asked
    rw [hstages] at hnames
    exact hnames stage (List.mem_append_right _ List.mem_cons_self) name' cause' hstage

end

end Generator

end ContractPress
