import ContractPress.Generator.Basic
import ContractPress.Proofs.Results

/-!
When the rules are carried out, and what comes of it.

`Emits` says what one task gives. All rules together give what their tasks give, one after the other
(`render_eq_ok`).
-/

namespace ContractPress

namespace Subject

variable {s : Subject} {id : String} {t : Task}

theorem template_of_mem_definitionTasks {rule : DefinitionRule}
    (ht : t ∈ s.definitionTasks id rule) : t.template = id := by
  obtain ⟨d, -, rfl⟩ := List.mem_map.mp ht
  rfl

theorem template_of_mem_groupTasks {rule : RouteRule} {groups : RouteGroups}
    (ht : t ∈ s.groupTasks id rule groups) : t.template = id := by
  obtain ⟨e, -, rfl⟩ := List.mem_map.mp ht
  rfl

end Subject

namespace Generator

/-- A generator of which nothing has been asked yet. -/
def fresh (config : Config) (helpers : HelperSet) (post : Option PostProcessor) : Generator :=
  { new config helpers with postProcessor := post }

/-- What the post-processor makes of an artifact, if there is one. -/
def processed (g : Generator) (a : Artifact) : Except Failure Artifact :=
  match g.postProcessor with
  | some process => process a
  | none => .ok a

/-- An artifact comes of a task: it is the rendered template, processed once. -/
def Emits (g : Generator) (t : Task) (a : Artifact) : Prop :=
  ∃ tree contents, g.renderer.templates.get? t.template = some tree ∧
    Template.render ⟨g.renderer.helpers, g.renderer.templates, t.context⟩ tree = .ok contents ∧
    g.processed ⟨t.path, contents⟩ = .ok a ∧ Path.escapesRoot a.path = false

variable {g : Generator} {s : Subject} {t : Task} {tree : Template.Tree} {a : Artifact}

theorem checkPath_eq_ok {item : String} {a b : Artifact} :
    checkPath item a = .ok b ↔ a = b ∧ Path.escapesRoot b.path = false := by
  unfold checkPath
  split
  · rename_i h
    refine ⟨nofun, ?_⟩
    intro h
    obtain ⟨rfl, h'⟩ := h
    rw [h] at h'
    cases h'
  · rename_i h
    rw [Except.ok.injEq]
    refine ⟨?_, And.left⟩
    rintro rfl
    exact ⟨rfl, by simpa using h⟩

theorem finish_eq_ok {item : String} {a b : Artifact} :
    g.finish item a = .ok b ↔ g.processed a = .ok b ∧ Path.escapesRoot b.path = false := by
  unfold finish processed
  cases g.postProcessor with
  | none => simp [checkPath_eq_ok]
  | some process =>
    simp only [bind_eq_ok, checkPath_eq_ok]
    constructor
    · intro h
      obtain ⟨b', hb, rfl, hpath⟩ := h
      exact ⟨hb, hpath⟩
    · intro h
      obtain ⟨hb, hpath⟩ := h
      exact ⟨b, hb, rfl, hpath⟩

theorem renderTree_eq_ok {r : Renderer} {id item contents : String} {context : Template.Value} :
    r.renderTree id tree context item = .ok contents ↔
      Template.render ⟨r.helpers, r.templates, context⟩ tree = .ok contents :=
  mapError_eq_ok

theorem template_eq_ok {r : Renderer} {id : String} :
    r.template id = .ok tree ↔ r.templates.get? id = some tree := by
  unfold Renderer.template
  cases r.templates.get? id <;> simp

theorem carryOut_eq_ok (htree : g.renderer.templates.get? t.template = some tree) :
    (g.carryOut tree t).result = .ok a ↔ g.Emits t a := by
  simp only [carryOut, Traced.result_bind, Traced.result_note, Traced.result_ofResult, bind_eq_ok,
    renderTree_eq_ok, finish_eq_ok]
  constructor
  · intro h
    obtain ⟨-, -, contents, hrender, -, -, hprocessed, hpath⟩ := h
    exact ⟨tree, contents, htree, hrender, hprocessed, hpath⟩
  · intro h
    obtain ⟨tree', contents, htree', hrender, hprocessed, hpath⟩ := h
    obtain rfl := Option.some.inj (htree.symm.trans htree')
    exact ⟨(), trivial, contents, hrender, (), trivial, hprocessed, hpath⟩

/-- Tasks of one template, of which there has to be a tree even if there are no tasks. -/
theorem mapM_carryOut_eq_ok {id : String} {tasks : List Task} {artifacts : List Artifact}
    (htree : g.renderer.templates.get? id = some tree) (htasks : ∀ t ∈ tasks, t.template = id) :
    (tasks.mapM (g.carryOut tree)).result = .ok artifacts ↔
      List.Forall₂ g.Emits tasks artifacts := by
  rw [Traced.result_mapM, mapM_eq_ok]
  induction tasks generalizing artifacts with
  | nil => simp only [List.forall₂_nil_left_iff]
  | cons t tasks ih =>
    rw [List.forall_mem_cons] at htasks
    have ht : ∀ a, (g.carryOut tree t).result = .ok a ↔ g.Emits t a := fun a =>
      carryOut_eq_ok (htasks.1 ▸ htree)
    simp only [List.forall₂_cons_left_iff, ht, ih htasks.2]

theorem renderDefinitions_eq_ok {id : String} {rule : DefinitionRule}
    {artifacts : List Artifact} :
    (g.renderDefinitions s id rule).result = .ok artifacts ↔
      g.renderer.isCompiled id = true ∧
        List.Forall₂ g.Emits (s.definitionTasks id rule) artifacts := by
  have htasks : ∀ t ∈ s.definitionTasks id rule, t.template = id := fun t =>
    Subject.template_of_mem_definitionTasks
  simp only [renderDefinitions, Traced.result_bind, Traced.result_note, Traced.result_ofResult,
    bind_eq_ok, template_eq_ok]
  constructor
  · intro h
    obtain ⟨-, -, tree, htree, hrun⟩ := h
    exact ⟨Option.isSome_of_eq_some htree, (mapM_carryOut_eq_ok htree htasks).mp hrun⟩
  · intro h
    obtain ⟨hcompiled, hrun⟩ := h
    obtain ⟨tree, htree⟩ := Option.isSome_iff_exists.mp hcompiled
    exact ⟨(), trivial, tree, htree, (mapM_carryOut_eq_ok htree htasks).mpr hrun⟩

theorem renderGroups_eq_ok {id : String} {rule : RouteRule} {artifacts : List Artifact} :
    (g.renderGroups s id rule).result = .ok artifacts ↔
      g.renderer.isCompiled id = true ∧ ∃ groups,
        RouteGroups.ofContract s.contract rule.groupBy rule.operations = .ok groups ∧
          List.Forall₂ g.Emits (s.groupTasks id rule groups) artifacts := by
  have htasks : ∀ groups, ∀ t ∈ s.groupTasks id rule groups, t.template = id := fun groups t =>
    Subject.template_of_mem_groupTasks
  simp only [renderGroups, Traced.result_bind, Traced.result_note, Traced.result_ofResult,
    bind_eq_ok, template_eq_ok, RouteGroups.traced]
  constructor
  · intro h
    obtain ⟨tree, htree, groups, hgroups, -, -, hrun⟩ := h
    exact ⟨Option.isSome_of_eq_some htree, groups, hgroups,
      (mapM_carryOut_eq_ok htree (htasks groups)).mp hrun⟩
  · intro h
    obtain ⟨hcompiled, groups, hgroups, hrun⟩ := h
    obtain ⟨tree, htree⟩ := Option.isSome_iff_exists.mp hcompiled
    exact ⟨tree, htree, groups, hgroups, (), trivial,
      (mapM_carryOut_eq_ok htree (htasks groups)).mpr hrun⟩

end Generator

namespace Subject

/-- The tasks of all rules, those of definitions first; `groups` are those of each route rule. -/
def tasks (s : Subject) (config : Config) (groups : List RouteGroups) : List Task :=
  (config.perDefinition.entries.flatMap fun e => s.definitionTasks e.1 e.2) ++
    (config.perPath.entries.zip groups).flatMap fun e => s.groupTasks e.1.1 e.1.2 e.2

end Subject

namespace Generator

variable {g : Generator} {s : Subject}

/-- A generator with nothing to do is no exception. -/
theorem render_eq_ok_iff_rules {artifacts : List Artifact} :
    (g.render s).result = .ok artifacts ↔ ∃ ofDefinitions,
      List.Forall₂ (fun e as => (g.renderDefinitions s e.1 e.2).result = .ok as)
        g.config.perDefinition.entries ofDefinitions ∧ ∃ ofGroups,
      List.Forall₂ (fun e as => (g.renderGroups s e.1 e.2).result = .ok as)
        g.config.perPath.entries ofGroups ∧
      ofDefinitions.flatten ++ ofGroups.flatten = artifacts := by
  unfold render
  split
  · rename_i hempty
    obtain ⟨hd, hp⟩ := Bool.and_eq_true_iff.mp hempty
    have hd := List.isEmpty_iff.mp hd
    have hp := List.isEmpty_iff.mp hp
    simp only [Traced.result_bind, Traced.result_note, Traced.result_pure, bind_eq_ok, hd, hp,
      List.forall₂_nil_left_iff]
    simp
  · simp only [Traced.result_bind, Traced.result_mapM, Traced.result_pure, bind_eq_ok, mapM_eq_ok,
      Except.ok.injEq]

/-- Carrying out all rules succeeds with the artifacts of all tasks, one for each. -/
theorem render_eq_ok {artifacts : List Artifact} :
    (g.render s).result = .ok artifacts ↔
      (∀ id ∈ g.config.templates, g.renderer.isCompiled id = true) ∧ ∃ groups,
        List.Forall₂
          (fun e gs => RouteGroups.ofContract s.contract e.2.groupBy e.2.operations = .ok gs)
          g.config.perPath.entries groups ∧
        List.Forall₂ g.Emits (s.tasks g.config groups) artifacts := by
  have htemplates : (∀ id ∈ g.config.templates, g.renderer.isCompiled id = true) ↔
      (∀ e ∈ g.config.perDefinition.entries, g.renderer.isCompiled e.1 = true) ∧
        ∀ e ∈ g.config.perPath.entries, g.renderer.isCompiled e.1 = true := by
    simp only [Config.templates, OrderedMap.keys, Entries.keys, List.forall_mem_append,
      List.forall_mem_map]
  -- the groups of each rule, which are found rule by rule, are chosen for all rules at once
  have hchoose := forall₂_exists_iff
    (P := fun e gs => RouteGroups.ofContract s.contract e.2.groupBy e.2.operations = .ok gs)
    (Q := fun x as => List.Forall₂ g.Emits (s.groupTasks x.1.1 x.1.2 x.2) as)
    g.config.perPath.entries
  rw [render_eq_ok_iff_rules, htemplates]
  simp only [renderDefinitions_eq_ok, renderGroups_eq_ok, List.forall₂_and_left, hchoose,
    Subject.tasks, forall₂_append_left, forall₂_flatMap_left]
  constructor
  · intro h
    obtain ⟨ofDefinitions, ⟨hc, hd⟩, ofGroups, ⟨hc', groups, hgroups, hg⟩, rfl⟩ := h
    exact ⟨⟨hc, hc'⟩, groups, hgroups, _, _, ⟨ofDefinitions, hd, rfl⟩, ⟨ofGroups, hg, rfl⟩, rfl⟩
  · intro h
    obtain ⟨⟨hc, hc'⟩, groups, hgroups, _, _, ⟨ofDefinitions, hd, rfl⟩, ⟨ofGroups, hg, rfl⟩,
      rfl⟩ := h
    exact ⟨ofDefinitions, ⟨hc, hd⟩, ofGroups, ⟨hc', groups, hgroups, hg⟩, rfl⟩

/-! ### From texts to artifacts -/

theorem result_generatePrepared (g : Generator) (prepared : Traced Unit) (c : Contract) :
    (g.generatePrepared prepared c).result =
      prepared.result >>= fun _ => (g.render (.ofContract c)).result := by
  simp only [generatePrepared, Traced.result_bind, Traced.result_forM_note, Traced.result_note]
  rfl

theorem result_generateContract (g : Generator) (texts : TemplateSource Id) (c : Contract) :
    (g.generateContract texts c).2.result =
      (Renderer.prepare texts g.config.templates g.renderer).2.result >>= fun _ =>
        ({ g with renderer := (Renderer.prepare texts g.config.templates g.renderer).1 } :
          Generator).render (.ofContract c) |>.result :=
  result_generatePrepared _ _ _

/-- Reports around a contract do not change what comes of it. -/
theorem result_reported (x : Traced (List Artifact)) (e e' : Event) (f : Failure → Failure)
    (last : List Artifact → Event) :
    (do
      .note e
      .note e'
      let artifacts ← x.mapFailure f
      .note (last artifacts)
      return artifacts : Traced (List Artifact)).result = x.result.mapError f := by
  simp only [Traced.result_bind, Traced.result_note, Traced.result_mapFailure, Traced.result_pure]
  cases x.result <;> rfl

theorem result_generate (g : Generator) (texts : TemplateSource Id) (name text : String) :
    (g.generate texts name text).2.result = match Contract.parse text with
      | .error failure => .error (.document name failure)
      | .ok c => (g.generateContract texts c).2.result.mapError (.document name) := by
  unfold generate
  cases Contract.parse text with
  | error failure => rfl
  | ok c => exact result_reported _ _ _ _ _

end Generator

end ContractPress
