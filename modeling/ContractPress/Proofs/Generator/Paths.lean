import ContractPress.Proofs.Generator.Emission
import ContractPress.Proofs.Path.Route

/-!
The paths of generated artifacts: none begins by climbing, and without a post-processor, which may
put any path in the place of the normalised one, all are made of names (`paths_normalised`).
-/

namespace ContractPress

namespace Subject

variable {s : Subject} {template : String} {t : Task}

theorem path_of_mem_definitionTasks {rule : DefinitionRule}
    (h : t ∈ s.definitionTasks template rule) :
    ∃ target file, t.path = artifactPath target file := by
  obtain ⟨d, -, rfl⟩ := List.mem_map.mp h
  -- by unfolding the task alone: `rfl` would go on to evaluate the path
  exact ⟨rule.target, Text.lowercase d.name ++ rule.extension, by rw [definitionTask]⟩

theorem path_of_mem_groupTasks {rule : RouteRule} {groups : RouteGroups}
    (h : t ∈ s.groupTasks template rule groups) :
    ∃ target file, t.path = artifactPath target file := by
  obtain ⟨group, -, rfl⟩ := List.mem_map.mp h
  exact ⟨rule.target, groupFileName group.1 ++ rule.extension, by rw [groupTask]⟩

theorem path_of_mem_tasks {config : Config} {groups : List RouteGroups}
    (h : t ∈ s.tasks config groups) : ∃ target file, t.path = artifactPath target file := by
  rcases List.mem_append.mp h with h | h
  · obtain ⟨e, -, h⟩ := List.mem_flatMap.mp h
    exact path_of_mem_definitionTasks h
  · obtain ⟨e, -, h⟩ := List.mem_flatMap.mp h
    exact path_of_mem_groupTasks h

end Subject

namespace Generator

section

variable {g : Generator} {s : Subject} {artifacts : List Artifact}

/-- Without a post-processor each path is that of a task. -/
theorem artifactPath_of_render (hpost : g.postProcessor = none)
    (h : (g.render s).result = .ok artifacts) :
    ∀ a ∈ artifacts, ∃ target file, a.path = artifactPath target file ∧
      Path.escapesRoot a.path = false := by
  obtain ⟨-, groups, -, hemits⟩ := render_eq_ok.mp h
  intro a ha
  obtain ⟨t, ht, tree, contents, -, -, hprocessed, hescapes⟩ := exists_of_mem_right hemits ha
  rw [processed, hpost, Except.ok.injEq] at hprocessed
  subst hprocessed
  obtain ⟨target, file, hpath⟩ := Subject.path_of_mem_tasks ht
  exact ⟨target, file, hpath, hescapes⟩

/-- Nothing that is generated begins by climbing, and without a post-processor nothing climbs. -/
theorem render_paths (h : (g.render s).result = .ok artifacts) :
    ∀ a ∈ artifacts, Path.escapesRoot a.path = false ∧
      (g.postProcessor = none → ¬Path.Climbs a.path) := by
  intro a ha
  constructor
  · obtain ⟨-, groups, -, hemits⟩ := render_eq_ok.mp h
    obtain ⟨t, -, -, -, -, -, -, hescapes⟩ := exists_of_mem_right hemits ha
    exact hescapes
  · intro hpost hclimbs
    obtain ⟨target, file, hpath, hescapes⟩ := artifactPath_of_render hpost h a ha
    have hlate := Path.not_climbsLate_artifactPath target file
    rw [← hpath, Path.climbsLate_iff] at hlate
    exact hlate ⟨hclimbs, hescapes⟩

/-- Without a post-processor the paths are made of names. -/
theorem render_names (hpost : g.postProcessor = none) (h : (g.render s).result = .ok artifacts) :
    ∀ a ∈ artifacts, ∃ names : List String, Path.segments a.path = names.map .name := by
  intro a ha
  obtain ⟨target, file, hpath, hescapes⟩ := artifactPath_of_render hpost h a ha
  rw [hpath] at hescapes ⊢
  obtain ⟨names, -, hnames⟩ := Path.segments_artifactPath_names hescapes
  exact ⟨names, hnames⟩

/-- They are written so. -/
theorem ofNames_of_render (hpost : g.postProcessor = none)
    (h : (g.render s).result = .ok artifacts) : ∀ a ∈ artifacts, Path.OfNames a.path := by
  intro a ha
  obtain ⟨target, file, hpath, hescapes⟩ := artifactPath_of_render hpost h a ha
  rw [hpath] at hescapes ⊢
  exact Path.ofNames_artifactPath hescapes

end

section

variable {σ : Type} {source : TemplateSource (StateM σ)} {g : Generator} {state : σ}
  {artifacts : List Artifact}

theorem exists_render_of_generateContract {c : Contract}
    (h : ((g.generateContract source c).run state).1.2.result = .ok artifacts) :
    ∃ r, (({ g with renderer := r } : Generator).render (.ofContract c)).result =
      .ok artifacts := by
  have hrender := (result_generatePrepared _ _ _).symm.trans h
  obtain ⟨-, -, hrender⟩ := bind_eq_ok.mp hrender
  exact ⟨_, hrender⟩

theorem exists_render_of_generate {name text : String}
    (h : ((g.generate source name text).run state).1.2.result = .ok artifacts) :
    ∃ r c, (({ g with renderer := r } : Generator).render (.ofContract c)).result =
      .ok artifacts := by
  unfold generate at h
  cases hparse : Contract.parse text with
  | error failure =>
    rw [hparse] at h
    cases h
  | ok c =>
    rw [hparse] at h
    have hreported := (result_reported _ _ _ _ _).symm.trans h
    rw [mapError_eq_ok] at hreported
    obtain ⟨r, hrender⟩ := exists_render_of_generateContract hreported
    exact ⟨r, c, hrender⟩

end

/-- For any target and file name, the path of an artifact is the route of both together, written
out: a slash if that route is absolute, then what it climbs, then its names, which are ordinary. It
leads where they lead, and normalising it again changes nothing; it is refused exactly if they climb
out. So what a generator without a post-processor makes has a relative path of ordinary names, in
whichever way it is called. -/
theorem paths_normalised :
    (∀ target fileName : String,
      let joined := Path.join target fileName
      let route := Path.Route.ofPath joined
      artifactPath target fileName = (if Path.isAbsolute joined then "/" else "") ++
        "/".intercalate (List.replicate route.climbs ".." ++ route.names) ∧
      (∀ name ∈ route.names, Path.Segment.PlainName name) ∧
      Path.Route.ofPath (artifactPath target fileName) = route ∧
      artifactPath "" (artifactPath target fileName) = artifactPath target fileName ∧
      (Path.escapesRoot (artifactPath target fileName) = true ↔ Path.Climbs joined)) ∧
    ∀ g : Generator, g.postProcessor = none → ∀ artifacts,
      (∀ s, (g.render s).result = .ok artifacts → ∀ a ∈ artifacts, Path.OfNames a.path) ∧
      ∀ (σ : Type) (source : TemplateSource (StateM σ)) (state : σ),
        (∀ c, ((g.generateContract source c).run state).1.2.result = .ok artifacts →
          ∀ a ∈ artifacts, Path.OfNames a.path) ∧
        ∀ name text, ((g.generate source name text).run state).1.2.result = .ok artifacts →
          ∀ a ∈ artifacts, Path.OfNames a.path := by
  constructor
  · intro target fileName joined route
    obtain ⟨habsolute, hnames, -⟩ := Path.Route.ofPath_spec joined
    refine ⟨?_, hnames, Path.ofPath_artifactPath target fileName,
      Path.artifactPath_artifactPath target fileName, Path.escapesRoot_artifactPath target fileName⟩
    rw [Path.artifactPath_eq_text, Path.Route.text, habsolute]
  · intro g hpost artifacts
    refine ⟨fun s => ofNames_of_render hpost, fun σ source state => ⟨fun c h => ?_, ?_⟩⟩
    · obtain ⟨r, hrender⟩ := exists_render_of_generateContract h
      exact ofNames_of_render (g := { g with renderer := r }) hpost hrender
    · intro name text h
      obtain ⟨r, c, hrender⟩ := exists_render_of_generate h
      exact ofNames_of_render (g := { g with renderer := r }) hpost hrender

/-- A target and a definition's name that go up and down, and pass over places. -/
theorem paths_normalised_of_detours :
    let rule : DefinitionRule := ⟨"./definitions//../models", ".js", .empty⟩
    let g := fresh ⟨.ofList [("t", rule)], .empty⟩ .empty none
    let source : TemplateSource (StateM Unit) := fun _ state => (.ok "x", state)
    let text := "paths: {}\ndefinitions:\n  ../Shop/./Pet: 1\n"
    g.postProcessor = none ∧
      ((g.generate source "d" text).run ()).1.2.result = .ok [⟨"shop/pet.js", "x"⟩] ∧
      Path.OfNames "shop/pet.js" ∧
      artifactPath "/a/../.." "./b//../../c" = "/../../c" := by
  intro rule g source text
  have hresult : ((g.generate source "d" text).run ()).1.2.result = .ok [⟨"shop/pet.js", "x"⟩] := by
    decide +kernel
  obtain ⟨hpath, -⟩ := paths_normalised.1 "/a/../.." "./b//../../c"
  refine ⟨rfl, hresult, ?_, hpath.trans (by decide +kernel)⟩
  have hgenerate := (paths_normalised.2 g rfl [⟨"shop/pet.js", "x"⟩]).2 Unit source ()
  exact hgenerate.2 "d" text hresult _ List.mem_cons_self

end Generator

end ContractPress
