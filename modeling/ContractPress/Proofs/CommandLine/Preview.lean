import ContractPress.CommandLine.Overview
import ContractPress.Proofs.Contract.Annotation
import ContractPress.Proofs.Generator.FirstFailure
import ContractPress.Proofs.Generator.History

/-!
The overview of a contract is a preview of what a rule for groups makes of it.

The overview takes the contract apart by itself, and so do the rules. Both find the same groups, or
fail as the same operation, so a generator with one such rule makes one artifact for each group that
is listed, and the lines of a group are what its template sees as the key and the members.
-/

namespace ContractPress

open Template (Value)

/-! ### What the overview comes to -/

theorem Failure.root_eq_self {failure : Failure}
    (h : ∀ name cause, failure ≠ .document name cause) : failure.root = failure := by
  cases failure with
  | document name cause => exact absurd rfl (h name cause)
  | _ => rfl

theorem RouteGroups.ofContract_ne_document (c : Contract) (field : String) (verbs : List String)
    (name : String) (cause : Failure) :
    ofContract c field verbs ≠ .error (.document name cause) := by
  intro h
  obtain h | ⟨_, -, h⟩ := bind_eq_error.mp h
  · obtain ⟨_, _, _, -, -, hassign⟩ := mapM_eq_error.mp h
    obtain ⟨-, h⟩ := assign_eq_error.mp hassign
    cases h
  · cases h

theorem result_overview (text field : String) (verbs : List String) :
    (overview text field verbs).result = do
      let c ← Contract.parse text
      let groups ← RouteGroups.ofContract c field verbs
      return Overview.text (Overview.lines (.ofContract c) field groups) := by
  simp only [overview, Traced.result_bind, Traced.result_ofResult, Traced.result_note,
    Traced.result_forM_note, Traced.result_pure]
  rfl

/-- Whatever an overview fails as, no document is named in it. -/
theorem root_of_overview {text field : String} {verbs : List String} {cause : Failure}
    (h : (overview text field verbs).result = .error cause) : cause.root = cause := by
  refine Failure.root_eq_self ?_
  rintro name cause rfl
  rw [result_overview] at h
  obtain h | ⟨c, -, h⟩ := bind_eq_error.mp h
  · exact Contract.parse_ne_document text name cause h
  obtain h | ⟨groups, -, h⟩ := bind_eq_error.mp h
  · exact RouteGroups.ofContract_ne_document c field verbs name cause h
  · cases h

namespace Overview

theorem text_eq_intercalate {lines : List String} (h : lines ≠ []) :
    text lines = "\n".intercalate lines ++ "\n" := by
  induction lines with
  | nil => exact absurd rfl h
  | cons line lines ih =>
    rw [text, List.map_cons, String.join_cons, ← text]
    cases lines with
    | nil => rw [String.intercalate_singleton, text, List.map_nil, String.join_nil,
        String.append_empty]
    | cons next lines =>
      rw [ih (List.cons_ne_nil _ _), String.intercalate_cons_cons, ← String.append_assoc]

theorem definitionLines_ofContract (c : Contract) :
    definitionLines (.ofContract c) = ("definitions (" ++ toString c.definitions.size ++ "):") ::
      c.definitions.keys.map ("  #/definitions/" ++ ·) := by
  have hsize : (DefinitionIndex.ofContract c).size = c.definitions.size :=
    Generator.size_index_ofContract c
  rw [definitionLines, hsize, DefinitionIndex.keys_ofContract, List.map_map]
  refine congrArg _ (List.map_congr_left fun name _ => ?_)
  -- the blanks before a key and the pointer that it begins with are one literal here
  exact String.append_assoc.symm

/-- The lines of one group. -/
def groupBlock (group : String × List Operation) : List String :=
  ("  " ++ group.1) :: group.2.map fun op => "    " ++ op.verb ++ " " ++ op.path.path

theorem groupLines_eq_flatten (groups : RouteGroups) :
    groupLines groups = (groups.entries.map groupBlock).flatten :=
  List.flatMap_def

end Overview

/-! ### What the overview shows of a group -/

/-- The line of a member, as a template sees it: its verb and its path. -/
def IsMemberLine (member : Value) (line : String) : Prop :=
  ∃ verb path, member.item? (.string "operationString") = some (.string verb) ∧
    member.item? (.string "pathString") = some (.string path) ∧
    line = "    " ++ verb ++ " " ++ path

/-- The lines of a file, as its template sees it: the group, and then its members one by one. -/
def IsGroupBlock (context : Value) (block : List String) : Prop :=
  ∃ key members memberLines,
    context.item? (.string "groupKey") = some (.string key) ∧
    context.item? (.string "members") = some (.list members) ∧
    List.Forall₂ IsMemberLine members memberLines ∧
    block = ("  " ++ key) :: memberLines

theorem isMemberLine_annotated (op : Operation) :
    IsMemberLine (.ofJson op.annotated) ("    " ++ op.verb ++ " " ++ op.path.path) := by
  have hitem : ∀ name, (Value.ofJson op.annotated).item? (.string name) =
      (Entries.get? name (((op.body.fieldsOrEmpty.insert "operationString" (.string op.verb)).insert
        "pathString" (.string op.path.path)).insert "pathDef" op.path.annotated)).map .ofJson :=
    fun name => Value.valueAt?_ofJsonFields name _
  refine ⟨op.verb, op.path.path, ?_, ?_, rfl⟩
  · rw [hitem]
    simp [Entries.get?_insert, Value.ofJson]
  · rw [hitem]
    simp [Entries.get?_insert, Value.ofJson]

theorem forall₂_isGroupBlock (c : Contract) (template : String) (rule : RouteRule)
    (groups : RouteGroups) :
    List.Forall₂ (fun q block => IsGroupBlock q.context block)
      (c.groupRequests template rule groups) (groups.entries.map Overview.groupBlock) := by
  rw [Contract.groupRequests, List.forall₂_map_left_iff, List.forall₂_map_right_iff,
    List.forall₂_same]
  intro group _
  refine ⟨group.1, group.2.map fun op => .ofJson op.annotated, _, ?_, ?_, ?_, rfl⟩
  · exact Subject.item?_context _ "groupKey"
  · refine (Subject.item?_context _ "members").trans (congrArg (some ∘ Value.list) ?_)
    rw [Value.ofJsonItems_eq_map, List.map_map]
    rfl
  · rw [List.forall₂_map_left_iff, List.forall₂_map_right_iff, List.forall₂_same]
    exact fun op _ => isMemberLine_annotated op

/-! ### A single rule -/

/-- There is this rule, for groups, and no other. -/
structure Config.HasOnly (config : Config) (template : String) (rule : RouteRule) : Prop where
  perDefinition : config.perDefinition.entries = []
  perPath : config.perPath.entries = [(template, rule)]

namespace Generator

variable {g : Generator} {template : String} {rule : RouteRule}

theorem result_render_of_hasOnly (h : g.config.HasOnly template rule) (s : Subject) :
    (g.render s).result = (g.renderGroups s template rule).result := by
  have hsome : g.config.isEmpty = false := by
    rw [Config.isEmpty, OrderedMap.isEmpty, OrderedMap.isEmpty, h.perPath]
    exact Bool.and_false _
  rw [render, hsome, h.perDefinition, h.perPath]
  simp only [Bool.false_eq_true, if_false, Traced.result_bind, Traced.result_pure,
    List.mapM_cons, List.mapM_nil]
  cases (g.renderGroups s template rule).result with
  | error failure => rfl
  | ok artifacts => exact congrArg Except.ok (List.append_nil artifacts)

/-- A file is made as it is asked for, with the templates that the generator has. -/
def Meets (g : Generator) (q : Request) (a : Artifact) : Prop :=
  q.Met g.renderer.helpers g.renderer.templates (g.postProcessor.getD .ok) a

theorem outcome_of_parse_error {source : TemplateSource Id} {name text : String}
    {failure : Failure} (h : Contract.parse text = .error failure) :
    g.outcome source name text = .error (.document name failure) := by
  rw [outcome, result_generate, h]

theorem renderGroups_of_grouping_error (hcompiled : g.renderer.isCompiled template = true)
    {s : Subject} {failure : Failure}
    (h : RouteGroups.ofContract s.contract rule.groupBy rule.operations = .error failure) :
    (g.renderGroups s template rule).result = .error failure := by
  rw [renderGroups, ofResult_template hcompiled, pure_bind, Traced.result_bind, RouteGroups.traced,
    h]
  rfl

/-- One artifact is made for each group if there is something to make of every group. -/
theorem exists_artifacts (hcompiled : g.renderer.isCompiled template = true) {c : Contract}
    {groups : RouteGroups}
    (hgroups : RouteGroups.ofContract c rule.groupBy rule.operations = .ok groups)
    (hmet : ∀ q ∈ c.groupRequests template rule groups, ∃ a, g.Meets q a) :
    ∃ artifacts, (g.renderGroups (.ofContract c) template rule).result = .ok artifacts ∧
      List.Forall₂ g.Meets (c.groupRequests template rule groups) artifacts := by
  obtain ⟨artifacts, hartifacts⟩ := exists_forall₂ hmet
  refine ⟨artifacts, renderGroups_eq_ok.mpr ⟨hcompiled, groups, hgroups, ?_⟩, hartifacts⟩
  rw [← Subject.map_request_groupTasks, List.forall₂_map_left_iff] at hartifacts
  exact hartifacts.imp fun t a => emits_iff.mpr

section

variable {source : TemplateSource Id} (honly : g.config.HasOnly template rule)
  (hprepared : (Renderer.prepare source g.config.templates g.renderer).2.result = .ok ())
include honly hprepared

theorem isCompiled_of_hasOnly : (g.prepared source).renderer.isCompiled template = true := by
  refine Renderer.isCompiled_of_prepare (?_ : template ∈ g.config.templates) hprepared
  rw [Config.templates, OrderedMap.keys, OrderedMap.keys, honly.perDefinition, honly.perPath]
  exact List.mem_singleton_self template

variable {name text : String} {c : Contract} (hparse : Contract.parse text = .ok c)
include hparse

/-- Where nothing is wrong with the template, it is carried out for the groups of the contract. -/
theorem outcome_of_hasOnly : g.outcome source name text =
    (((g.prepared source).renderGroups (.ofContract c) template rule).result).mapError
      (.document name) := by
  rw [outcome, result_generate, hparse]
  dsimp only
  rw [result_generateContract, hprepared]
  exact congrArg (Except.mapError (Failure.document name))
    (result_render_of_hasOnly (g := g.prepared source) honly (.ofContract c))

/-- What has succeeded has made every file that was asked for. -/
theorem exists_meets_of_outcome {artifacts : List Artifact}
    (h : g.outcome source name text = .ok artifacts) {groups : RouteGroups}
    (hgroups : RouteGroups.ofContract c rule.groupBy rule.operations = .ok groups) :
    ∀ q ∈ c.groupRequests template rule groups, ∃ a, (g.prepared source).Meets q a := by
  rw [outcome_of_hasOnly honly hprepared hparse, mapError_eq_ok, renderGroups_eq_ok] at h
  obtain ⟨-, groups', hgroups', hemits⟩ := h
  obtain rfl := Except.ok.inj (hgroups.symm.trans hgroups')
  intro q hq
  rw [← Subject.map_request_groupTasks] at hq
  obtain ⟨t, ht, rfl⟩ := List.mem_map.mp hq
  obtain ⟨a, -, ha⟩ := exists_of_mem_right hemits.flip ht
  exact ⟨a, emits_iff.mp ha⟩

end

end Generator

/-- A generator whose only rule is for groups fails exactly if the overview does, and as it does,
with the name of the document around this, where nothing is wrong with the template and its files.
Otherwise it makes one artifact for each group that is listed, in that order, and what is listed of
a group are the key and the members that the template of its artifact is given. -/
theorem overview_previews (g : Generator) (source : TemplateSource Id) {template : String}
    {rule : RouteRule} (honly : g.config.HasOnly template rule)
    (hprepared : (Renderer.prepare source g.config.templates g.renderer).2.result = .ok ())
    (name text : String)
    (hmet : ∀ c groups, Contract.parse text = .ok c →
      RouteGroups.ofContract c rule.groupBy rule.operations = .ok groups →
      ∀ q ∈ c.groupRequests template rule groups, ∃ a, (g.prepared source).Meets q a) :
    match (overview text rule.groupBy rule.operations).result with
    | .error cause => g.outcome source name text = .error (.document name cause) ∧
        (Failure.document name cause).root = cause
    | .ok report => ∃ c groups artifacts blocks,
        Contract.parse text = .ok c ∧
        RouteGroups.ofContract c rule.groupBy rule.operations = .ok groups ∧
        g.outcome source name text = .ok artifacts ∧
        List.Forall₂ (g.prepared source).Meets (c.groupRequests template rule groups) artifacts ∧
        List.Forall₂ (fun q block => IsGroupBlock q.context block)
          (c.groupRequests template rule groups) blocks ∧
        report = "\n".intercalate (
          ("definitions (" ++ toString c.definitions.size ++ "):") ::
            c.definitions.keys.map ("  #/definitions/" ++ ·) ++
          ("groups by " ++ rule.groupBy ++ " (" ++ toString artifacts.length ++ "):") ::
            blocks.flatten) ++ "\n" := by
  have hcompiled := Generator.isCompiled_of_hasOnly honly hprepared
  cases hoverview : (overview text rule.groupBy rule.operations).result with
  | error cause =>
    refine ⟨?_, root_of_overview hoverview⟩
    rw [result_overview] at hoverview
    obtain hparse | ⟨c, hparse, hoverview⟩ := bind_eq_error.mp hoverview
    · exact Generator.outcome_of_parse_error hparse
    obtain hgroups | ⟨groups, -, hreport⟩ := bind_eq_error.mp hoverview
    · rw [Generator.outcome_of_hasOnly honly hprepared hparse,
        Generator.renderGroups_of_grouping_error hcompiled hgroups]
      rfl
    · cases hreport
  | ok report =>
    rw [result_overview] at hoverview
    obtain ⟨c, hparse, hoverview⟩ := bind_eq_ok.mp hoverview
    obtain ⟨groups, hgroups, hreport⟩ := bind_eq_ok.mp hoverview
    obtain ⟨artifacts, hresult, hartifacts⟩ :=
      Generator.exists_artifacts hcompiled hgroups (hmet c groups hparse hgroups)
    refine ⟨c, groups, artifacts, _, hparse, hgroups, ?_, hartifacts,
      forall₂_isGroupBlock c template rule groups, ?_⟩
    · rw [Generator.outcome_of_hasOnly honly hprepared hparse, hresult]
      rfl
    · have hsize : groups.size = artifacts.length := by
        rw [← hartifacts.length_eq, Contract.groupRequests, List.length_map, OrderedMap.size]
      rw [← pure_eq_ok.mp hreport, Overview.lines, Overview.definitionLines_ofContract, hsize,
        Overview.groupLines_eq_flatten]
      exact Overview.text_eq_intercalate (List.cons_ne_nil _ _)

/-- Two groups with a file each, whatever they are rendered from. -/
theorem overview_of_two_groups :
    let rule : RouteRule := ⟨"c", ".js", "g", ["get"], none, none, .empty⟩
    let g : Generator := .fresh ⟨.empty, .ofList [("t", rule)]⟩ .empty none
    let source : TemplateSource Id := fun _ => .ok "x"
    let text := "paths:\n  /a:\n    get:\n      g: A\n  /b:\n    get:\n      g: B\n" ++
      "definitions:\n  Pet: 1\n"
    (overview text "g" ["get"]).result = .ok ("definitions (1):\n  #/definitions/Pet\n" ++
        "groups by g (2):\n  A\n    get /a\n  B\n    get /b\n") ∧
      ∃ c groups artifacts, Contract.parse text = .ok c ∧
        RouteGroups.ofContract c "g" ["get"] = .ok groups ∧
        g.outcome source "a" text = .ok artifacts ∧
        List.Forall₂ (g.prepared source).Meets (c.groupRequests "t" rule groups) artifacts := by
  intro rule g source text
  have hreport : (overview text "g" ["get"]).result = .ok ("definitions (1):\n" ++
      "  #/definitions/Pet\ngroups by g (2):\n  A\n    get /a\n  B\n    get /b\n") := by
    decide +kernel
  have honly : g.config.HasOnly "t" rule := ⟨rfl, rfl⟩
  have hprepared : (Renderer.prepare source g.config.templates g.renderer).2.result = .ok () := by
    decide +kernel
  have houtcome : g.outcome source "a" text = .ok [⟨"c/a.js", "x"⟩, ⟨"c/b.js", "x"⟩] := by
    decide +kernel
  have hpreview := overview_previews g source honly hprepared "a" text
    fun c groups hparse =>
      Generator.exists_meets_of_outcome honly hprepared hparse houtcome
  rw [hreport] at hpreview
  obtain ⟨c, groups, artifacts, -, hparse, hgroups, houtcome, hartifacts, -⟩ := hpreview
  exact ⟨hreport, c, groups, artifacts, hparse, hgroups, houtcome, hartifacts⟩

end ContractPress
