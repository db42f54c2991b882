import ContractPress.Proofs.Contract.Index
import ContractPress.Proofs.Generator.Emission
import ContractPress.Proofs.Generator.Preparation
import Mathlib.Algebra.GroupWithZero.Nat

/-!
The files that a configuration asks for, and that they are what is generated.

`Contract.requests` lists the files without generating any: those of definitions rule by rule, then
those of groups rule by rule. `generate_eq_ok_iff` says when a generator succeeds, and that then it
meets these requests one for one and in their order.
-/

namespace ContractPress

/-- A file that is asked for: where it belongs, and what it is rendered from. -/
structure Request where
  template : String
  path : String
  context : Template.Value

/-- An artifact is what a request asks for: the template's text in the context, processed once. -/
def Request.Met (q : Request) (helpers : HelperSet) (trees : OrderedMap Template.Tree)
    (process : PostProcessor) (a : Artifact) : Prop :=
  ∃ tree contents, trees.get? q.template = some tree ∧
    Template.render ⟨helpers, trees, q.context⟩ tree = .ok contents ∧
    process ⟨q.path, contents⟩ = .ok a ∧ Path.escapesRoot a.path = false

namespace Contract

variable (c : Contract)

/-- The bodies of all definitions under their reference keys. -/
def definitionMap : Json :=
  .object (c.definitions.entries.map fun d =>
    (referenceKey d.1, (Definition.annotate d.1 d.2).body))

/-- One file for each definition, in document order. -/
def definitionRequests (template : String) (rule : DefinitionRule) : List Request :=
  c.definitions.entries.map fun d => {
    template
    path := artifactPath rule.target (Text.lowercase d.1 ++ rule.extension)
    context := .ofJson (.object [
      ("model", c.document),
      ("definition", (Definition.annotate d.1 d.2).body),
      ("definitionMap", c.definitionMap),
      ("options", rule.options)]) }

/-- One file for each group. -/
def groupRequests (template : String) (rule : RouteRule) (groups : RouteGroups) : List Request :=
  groups.entries.map fun group => {
    template
    path := artifactPath rule.target (Text.lowercase (Text.trim group.1) ++ rule.extension)
    context := .ofJson (.object [
      ("fileName", .string (Text.lowercase (Text.trim group.1))),
      ("groupKey", .string group.1),
      ("members", .array (group.2.map Operation.annotated)),
      ("definitionMap", c.definitionMap),
      ("model", c.document),
      ("options", rule.options)]) }

/-- The files of all rules; `groups` are those that each route rule makes of the operations. -/
def requests (config : Config) (groups : List RouteGroups) : List Request :=
  (config.perDefinition.entries.flatMap fun e => c.definitionRequests e.1 e.2) ++
    (config.perPath.entries.zip groups).flatMap fun e => c.groupRequests e.1.1 e.1.2 e.2

theorem length_requests (config : Config) {groups : List RouteGroups}
    (h : groups.length = config.perPath.size) :
    (c.requests config groups).length =
      config.perDefinition.size * c.definitions.size + (groups.map OrderedMap.size).sum := by
  have hdefinitions : ∀ rules : Entries String DefinitionRule,
      (rules.flatMap fun e => c.definitionRequests e.1 e.2).length =
        rules.length * c.definitions.size := by
    intro rules
    simp [List.length_flatMap, definitionRequests, OrderedMap.size]
  have hgroups : ∀ rules : Entries String RouteRule, groups.length = rules.length →
      ((rules.zip groups).flatMap fun e => c.groupRequests e.1.1 e.1.2 e.2).length =
        (groups.map OrderedMap.size).sum := by
    intro rules hlength
    have hsizes : (rules.zip groups).map (fun e => (c.groupRequests e.1.1 e.1.2 e.2).length) =
        ((rules.zip groups).map Prod.snd).map OrderedMap.size := by
      simp [groupRequests, OrderedMap.size]
    rw [List.length_flatMap, hsizes, List.map_snd_zip (Nat.le_of_eq hlength)]
  rw [requests, List.length_append, hdefinitions, hgroups _ h]
  rfl

end Contract

/-- What a task asks for. -/
def Task.request (t : Task) : Request :=
  ⟨t.template, t.path, t.context⟩

namespace Subject

variable (c : Contract)

theorem map_request_definitionTasks (template : String) (rule : DefinitionRule) :
    ((ofContract c).definitionTasks template rule).map Task.request =
      c.definitionRequests template rule := by
  rw [definitionTasks, List.map_map, ofContract, DefinitionIndex.toList_ofContract, List.map_map]
  simp only [Function.comp_def, definitionTask, Task.request, DefinitionIndex.toJson_ofContract]
  rfl

theorem map_request_groupTasks (template : String) (rule : RouteRule) (groups : RouteGroups) :
    ((ofContract c).groupTasks template rule groups).map Task.request =
      c.groupRequests template rule groups := by
  rw [groupTasks, List.map_map, ofContract]
  simp only [Function.comp_def, groupTask, Task.request, DefinitionIndex.toJson_ofContract]
  rfl

theorem map_request_tasks (config : Config) (groups : List RouteGroups) :
    ((ofContract c).tasks config groups).map Task.request = c.requests config groups := by
  simp only [tasks, Contract.requests, List.map_append, List.map_flatMap,
    map_request_definitionTasks, map_request_groupTasks]

end Subject

namespace Generator

variable {g : Generator}

theorem emits_iff {t : Task} {a : Artifact} : g.Emits t a ↔
    t.request.Met g.renderer.helpers g.renderer.templates (g.postProcessor.getD .ok) a := by
  unfold Emits processed
  cases g.postProcessor <;> rfl

/-- For a contract: all templates compile, every rule finds its groups and every request is met. -/
theorem generateContract_eq_ok_iff (config : Config) (helpers : HelperSet)
    (post : Option PostProcessor) (texts : TemplateSource Id) (c : Contract)
    (artifacts : List Artifact) :
    ((fresh config helpers post).generateContract texts c).2.result = .ok artifacts ↔
      ∃ trees groups, IsCompilation texts config.templates trees ∧
        List.Forall₂
          (fun e gs => RouteGroups.ofContract c e.2.groupBy e.2.operations = .ok gs)
          config.perPath.entries groups ∧
        List.Forall₂ (fun q a => q.Met helpers trees (post.getD .ok) a)
          (c.requests config groups) artifacts := by
  obtain ⟨trees, hrenderer⟩ : ∃ trees,
      (Renderer.prepare texts config.templates (.new helpers)).1 = ⟨helpers, trees⟩ :=
    ⟨_, congrArg (Renderer.mk · _) (Renderer.helpers_prepare texts config.templates _)⟩
  have hprepared := Renderer.prepare_new_eq_ok texts config.templates helpers
  rw [result_generateContract]
  simp only [fresh, new, hrenderer] at hprepared ⊢
  rw [bind_eq_ok]
  simp only [render_eq_ok]
  constructor
  · intro h
    obtain ⟨_, hok, -, groups, hgroups, hemits⟩ := h
    refine ⟨trees, groups, (hprepared trees).mp ⟨hok, rfl⟩, hgroups, ?_⟩
    rw [← Subject.map_request_tasks, List.forall₂_map_left_iff]
    exact hemits.imp fun t a => emits_iff.mp
  · intro h
    obtain ⟨trees', groups, hcompilation, hgroups, hmet⟩ := h
    obtain ⟨hok, htrees⟩ := (hprepared trees').mpr hcompilation
    obtain rfl : trees = trees' := by injection htrees
    refine ⟨(), hok, fun id hid => ?_, groups, hgroups, ?_⟩
    · exact Renderer.isCompiled_iff.mpr (hcompilation.mem_keys.mpr hid)
    · rw [← Subject.map_request_tasks, List.forall₂_map_left_iff] at hmet
      exact hmet.imp fun t a => emits_iff.mpr

/-- Generation succeeds exactly if the text is a contract, all templates compile, every rule finds
its groups and every request can be met; the artifacts are what is requested, one for one. -/
theorem generate_eq_ok_iff (config : Config) (helpers : HelperSet) (post : Option PostProcessor)
    (texts : TemplateSource Id) (name text : String) (artifacts : List Artifact) :
    ((fresh config helpers post).generate texts name text).2.result = .ok artifacts ↔
      ∃ c trees groups, Contract.parse text = .ok c ∧
        IsCompilation texts config.templates trees ∧
        List.Forall₂
          (fun e gs => RouteGroups.ofContract c e.2.groupBy e.2.operations = .ok gs)
          config.perPath.entries groups ∧
        List.Forall₂ (fun q a => q.Met helpers trees (post.getD .ok) a)
          (c.requests config groups) artifacts ∧
        artifacts.length =
          config.perDefinition.size * c.definitions.size + (groups.map OrderedMap.size).sum := by
  rw [result_generate]
  cases Contract.parse text with
  | error failure =>
    refine ⟨nofun, ?_⟩
    intro h
    obtain ⟨c, -, -, hparse, -⟩ := h
    cases hparse
  | ok c =>
    rw [mapError_eq_ok, generateContract_eq_ok_iff]
    constructor
    · intro h
      obtain ⟨trees, groups, hcompilation, hgroups, hmet⟩ := h
      refine ⟨c, trees, groups, rfl, hcompilation, hgroups, hmet, ?_⟩
      rw [← hmet.length_eq, c.length_requests config hgroups.length_eq.symm]
    · intro h
      obtain ⟨c', trees, groups, hc, hcompilation, hgroups, hmet, -⟩ := h
      obtain rfl := Except.ok.inj hc
      exact ⟨trees, groups, hcompilation, hgroups, hmet⟩

end Generator

end ContractPress
