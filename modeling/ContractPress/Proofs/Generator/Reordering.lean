import ContractPress.Proofs.Generator.History
import ContractPress.Proofs.Template.Agreement

/-!
Rules in another order.

All templates are compiled before anything is rendered, and a rule sees of the others only their
templates under their identifiers. So generators whose rules stand in another order fail together,
and what they make are the same artifacts in another order (`generate_reordered`).
-/

namespace ContractPress

open Std.Do

/-- The same rules, in another order among those of definitions and among those of groups. -/
structure Config.Reordered (c c' : Config) : Prop where
  perDefinition : c.perDefinition.entries.Perm c'.perDefinition.entries
  perPath : c.perPath.entries.Perm c'.perPath.entries

namespace Config.Reordered

variable {c c' : Config}

theorem symm (h : c.Reordered c') : c'.Reordered c :=
  ⟨h.perDefinition.symm, h.perPath.symm⟩

theorem mem_templates (h : c.Reordered c') (id : String) :
    id ∈ c.templates ↔ id ∈ c'.templates := by
  have hdefinitions := (h.perDefinition.map Prod.fst).mem_iff (a := id)
  have hpaths := (h.perPath.map Prod.fst).mem_iff (a := id)
  simp only [templates, OrderedMap.keys, Entries.keys, List.mem_append, hdefinitions, hpaths]

end Config.Reordered

/-! ### Which templates compile -/

section

variable {texts : TemplateSource Id}

/-- Templates can be compiled together if each can be compiled. -/
theorem IsCompilation.exists_iff {ids : List String} :
    (∃ trees, IsCompilation texts ids trees) ↔ ∀ id ∈ ids, ∃ tree, Compiles texts id tree := by
  constructor
  · intro h id hid
    obtain ⟨trees, h⟩ := h
    obtain ⟨e, he, rfl⟩ := List.mem_map.mp (h.mem_keys.mpr hid)
    exact ⟨e.2, h.compiles e he⟩
  · intro h
    rcases Renderer.prepare_spec (r := .new .empty) IsCompilation.empty ids with
      ⟨-, hcompilation⟩ | ⟨failure, -, id, hid, hnone⟩
    · exact ⟨_, hcompilation⟩
    · obtain ⟨tree, htree⟩ := h id hid
      exact absurd htree (hnone tree)

end

namespace Generator

/-! ### What a rule depends on -/

/-- Generators with the same helpers and the same post-processor, and with the same tree under every
identifier. -/
structure Agree (g g' : Generator) : Prop where
  helpers : g.renderer.helpers = g'.renderer.helpers
  postProcessor : g.postProcessor = g'.postProcessor
  template : ∀ id, g.renderer.templates.get? id = g'.renderer.templates.get? id

namespace Agree

variable {g g' : Generator}

theorem template_eq (h : g.Agree g') (id : String) :
    g.renderer.template id = g'.renderer.template id := by
  unfold Renderer.template
  rw [h.template]

theorem renderTree_eq (h : g.Agree g') (id : String) (tree : Template.Tree)
    (context : Template.Value) (item : String) :
    g.renderer.renderTree id tree context item = g'.renderer.renderTree id tree context item := by
  have haround : Template.Surroundings.Agree
      ⟨g.renderer.helpers, g.renderer.templates, context⟩
      ⟨g'.renderer.helpers, g'.renderer.templates, context⟩ := ⟨h.helpers, rfl, h.template⟩
  rw [Renderer.renderTree, Renderer.renderTree, Template.render_agree haround]

theorem carryOut_eq (h : g.Agree g') (tree : Template.Tree) :
    g.carryOut tree = g'.carryOut tree := by
  have hfinish : g.finish = g'.finish := by
    funext item a
    unfold finish
    rw [h.postProcessor]
  funext t
  unfold carryOut
  rw [hfinish, h.renderTree_eq]

theorem renderDefinitions_eq (h : g.Agree g') (s : Subject) (template : String)
    (rule : DefinitionRule) :
    g.renderDefinitions s template rule = g'.renderDefinitions s template rule := by
  unfold renderDefinitions
  simp only [h.template_eq, h.carryOut_eq]

theorem renderGroups_eq (h : g.Agree g') (s : Subject) (template : String) (rule : RouteRule) :
    g.renderGroups s template rule = g'.renderGroups s template rule := by
  unfold renderGroups
  simp only [h.template_eq, h.carryOut_eq]

/-- What succeeds with rules in one order succeeds in the other, and makes the same artifacts. -/
theorem render_of_reordered (h : g.Agree g') (hconfig : g.config.Reordered g'.config) {s : Subject}
    {artifacts : List Artifact} (hok : (g.render s).result = .ok artifacts) :
    ∃ artifacts', (g'.render s).result = .ok artifacts' ∧ artifacts.Perm artifacts' := by
  rw [render_eq_ok_iff_rules] at hok
  obtain ⟨ofDefinitions, hdefinitions, ofGroups, hgroups, rfl⟩ := hok
  simp only [h.renderDefinitions_eq, h.renderGroups_eq] at hdefinitions hgroups
  -- each rule brings its artifacts with it to its new place
  obtain ⟨ofDefinitions', hdefinitions', hperm⟩ :=
    List.perm_comp_forall₂ hconfig.symm.perDefinition hdefinitions
  obtain ⟨ofGroups', hgroups', hperm'⟩ := List.perm_comp_forall₂ hconfig.symm.perPath hgroups
  refine ⟨ofDefinitions'.flatten ++ ofGroups'.flatten, ?_, ?_⟩
  · exact render_eq_ok_iff_rules.mpr ⟨ofDefinitions', hdefinitions', ofGroups', hgroups', rfl⟩
  · exact hperm.symm.flatten.append hperm'.symm.flatten

end Agree

/-! ### New generators -/

/-- Both fail, or both succeed with the same artifacts in some order. -/
def SameArtifacts : Except Failure (List Artifact) → Except Failure (List Artifact) → Prop
  | .ok artifacts, .ok artifacts' => artifacts.Perm artifacts'
  | .error _, .error _ => True
  | _, _ => False

variable {texts : TemplateSource Id}

theorem outcome_of_reordered {config config' : Config} (h : config.Reordered config')
    (helpers : HelperSet) (post : Option PostProcessor) {name text : String}
    {artifacts : List Artifact}
    (hok : (fresh config helpers post).outcome texts name text = .ok artifacts) :
    ∃ artifacts', (fresh config' helpers post).outcome texts name text = .ok artifacts' ∧
      artifacts.Perm artifacts' := by
  rw [outcome, result_generate] at hok ⊢
  cases hparse : Contract.parse text with
  | error failure =>
    rw [hparse] at hok
    cases hok
  | ok c =>
    rw [hparse] at hok
    simp only [mapError_eq_ok, result_generateContract, bind_eq_ok] at hok ⊢
    obtain ⟨_, hprepared, hrender⟩ := hok
    have hhelpers := Renderer.helpers_prepare texts config.templates (.new helpers)
    have hcompilation := (Renderer.prepare_new_eq_ok texts config.templates helpers _).mp
      ⟨hprepared, congrArg (Renderer.mk · _) hhelpers⟩
    obtain ⟨trees', hcompilation'⟩ : ∃ trees', IsCompilation texts config'.templates trees' := by
      refine IsCompilation.exists_iff.mpr fun id hid => ?_
      exact IsCompilation.exists_iff.mp ⟨_, hcompilation⟩ id ((h.mem_templates id).mpr hid)
    obtain ⟨hprepared', hrenderer'⟩ :=
      (Renderer.prepare_new_eq_ok texts config'.templates helpers trees').mpr hcompilation'
    have hagree : Agree ⟨config, (Renderer.prepare texts config.templates (.new helpers)).1, post⟩
        ⟨config', (Renderer.prepare texts config'.templates (.new helpers)).1, post⟩ := by
      rw [hrenderer']
      exact ⟨hhelpers, rfl, hcompilation.get?_eq hcompilation' h.mem_templates⟩
    obtain ⟨artifacts', hrender', hperm⟩ := hagree.render_of_reordered h hrender
    exact ⟨artifacts', ⟨(), hprepared', hrender'⟩, hperm⟩

theorem sameArtifacts_of_reordered {config config' : Config} (h : config.Reordered config')
    (helpers : HelperSet) (post : Option PostProcessor) (name text : String) :
    SameArtifacts ((fresh config helpers post).outcome texts name text)
      ((fresh config' helpers post).outcome texts name text) := by
  cases hfirst : (fresh config helpers post).outcome texts name text with
  | ok artifacts =>
    obtain ⟨artifacts', hsecond, hperm⟩ := outcome_of_reordered h helpers post hfirst
    rw [hsecond]
    exact hperm
  | error failure =>
    cases hsecond : (fresh config' helpers post).outcome texts name text with
    | ok artifacts' =>
      obtain ⟨artifacts, hok, -⟩ := outcome_of_reordered h.symm helpers post hsecond
      cases hfirst.symm.trans hok
    | error failure' => trivial

variable {m : Type → Type} {p : PostShape.{0}} [Monad m] [WPMonad m p] {I : Assertion p}

/-- New generators whose rules stand in another order, asked for the same contract with the same
templates' texts, fail both or succeed both, and then their artifacts are the same in some order. -/
theorem generate_reordered {source : TemplateSource m} (hsource : source.Answers I texts)
    {config config' : Config} (h : config.Reordered config') (helpers : HelperSet)
    (post : Option PostProcessor) (name text : String) :
    let first := fresh config helpers post
    let second := fresh config' helpers post
    SameArtifacts (first.outcome texts name text) (second.outcome texts name text) ∧
    Yields I (first.generate source name text)
      (fun generated => generated.2.result = first.outcome texts name text) ∧
    Yields I (second.generate source name text)
      (fun generated => generated.2.result = second.outcome texts name text) := by
  refine ⟨sameArtifacts_of_reordered h helpers post name text, ?_, ?_⟩
  · exact (generate_yields hsource _ name text).mono fun _ he => congrArg (·.2.result) he
  · exact (generate_yields hsource _ name text).mono fun _ he => congrArg (·.2.result) he

/-- Two rules of definitions, the template of the one in that of the other, and two of groups: in
the other order the same files come in another order, from a source that counts what it is asked. -/
theorem four_rules_reordered :
    let texts : TemplateSource Id := .inline (.ofList [("a", "\x7b% include 'b' %\x7d!"),
      ("b", "\x7b\x7b definition.definitionName \x7d\x7d"),
      ("c", "\x7b\x7b groupKey \x7d\x7d"), ("d", "\x7b\x7b members|length \x7d\x7d")])
    let source : TemplateSource (StateM Nat) := fun id => modifyGet fun n => (texts id, n + 1)
    let rule (target : String) : DefinitionRule := ⟨target, ".js", .empty⟩
    let route (target : String) : RouteRule := ⟨target, ".js", "g", ["get"], none, none, .empty⟩
    let config : Config := ⟨.ofList [("a", rule "x"), ("b", rule "y")],
      .ofList [("c", route "z"), ("d", route "w")]⟩
    let config' : Config := ⟨.ofList [("b", rule "y"), ("a", rule "x")],
      .ofList [("d", route "w"), ("c", route "z")]⟩
    let text := "paths:\n  /pets:\n    get:\n      g: 'A'\ndefinitions:\n  Pet: 1\n"
    let artifacts : List Artifact := [⟨"x/pet.js", "Pet!"⟩, ⟨"y/pet.js", "Pet"⟩,
      ⟨"z/a.js", "A"⟩, ⟨"w/a.js", "1"⟩]
    config.Reordered config' ∧
      (((fresh config .builtin none).generate source "d" text).run 0).1.2.result = .ok artifacts ∧
      ∃ artifacts', artifacts.Perm artifacts' ∧ artifacts' ≠ artifacts ∧
        (((fresh config' .builtin none).generate source "d" text).run 0).1.2.result =
          .ok artifacts' := by
  intro texts source rule route config config' text artifacts
  have hsource : source.Answers (p := .arg Nat .pure) (fun _ => ⌜True⌝) texts :=
    fun id => yields_stateM.mpr fun n _ => ⟨rfl, trivial⟩
  have hreordered : config.Reordered config' := ⟨.swap _ _ [], .swap _ _ []⟩
  obtain ⟨hsame, hfirst, hsecond⟩ := generate_reordered hsource hreordered .builtin none "d" text
  rw [yields_stateM] at hfirst hsecond
  have hok : (fresh config .builtin none).outcome texts "d" text = .ok artifacts := by
    decide +kernel
  have hok' : (fresh config' .builtin none).outcome texts "d" text =
      .ok [⟨"y/pet.js", "Pet"⟩, ⟨"x/pet.js", "Pet!"⟩, ⟨"w/a.js", "1"⟩, ⟨"z/a.js", "A"⟩] := by
    decide +kernel
  rw [hok, hok'] at hsame
  exact ⟨hreordered, (hfirst 0 trivial).1.trans hok, _, hsame, by decide,
    (hsecond 0 trivial).1.trans hok'⟩

end Generator

end ContractPress
