import ContractPress.Generator.Task
import ContractPress.Proofs.Contract.Conversion
import ContractPress.Proofs.Contract.Grouping
import ContractPress.Proofs.Contract.Index
import ContractPress.Proofs.Template.Lookup

/-!
What templates see of a contract.

Definitions and operations are shown with annotations. `Annotates` says that an annotation takes the
place of a field of its name and that all other fields stay as the contract has them, in their
order. The document itself is shown as it was read, and every name in it was written by the contract
(`hasName_of_ofYaml`).
-/

namespace ContractPress

open Template

namespace Json

/-- The fields of an object but those of some names. -/
def fieldsBut (j : Json) (names : List String) : Entries String Json :=
  j.fieldsOrEmpty.filter fun f => f.1 ∉ names

/-- A value is another one with annotations. -/
structure Annotates (annotations : Entries String Json) (j shown : Json) : Prop where
  mapping : ∃ fields, shown = .object fields
  /-- All other fields are kept with their values and in their order, and there are no more. -/
  kept : shown.fieldsBut annotations.keys = j.fieldsBut annotations.keys
  /-- The annotations hold, also where the value has fields of their names. -/
  reserved : ∀ f ∈ annotations, shown.field? f.1 = some f.2
  distinct : j.fieldsOrEmpty.keys.Nodup → shown.fieldsOrEmpty.keys.Nodup
  /-- What is no mapping gives way to the annotations alone. -/
  alone : j.fields? = none → shown = .object annotations

theorem annotates_insertAll {annotations : Entries String Json} (h : annotations.keys.Nodup)
    (j : Json) : Annotates annotations j (.object (j.fieldsOrEmpty.insertAll annotations)) where
  mapping := ⟨_, rfl⟩
  kept := by
    refine Entries.filter_insertAll (p := fun k => k ∉ annotations.keys) (fun f hf => ?_) _
    exact decide_eq_false (not_not_intro (List.mem_map_of_mem hf))
  reserved := by
    intro f hf
    have hreverse : (Entries.keys annotations.reverse).Nodup := by
      rwa [Entries.keys, List.map_reverse, List.nodup_reverse]
    have hget := (Entries.get?_eq_some_iff hreverse).mpr (List.mem_reverse.mpr hf)
    exact (Entries.get?_insertAll _ _ _).trans (by rw [hget, Option.some_or])
  distinct := fun hj => Entries.nodup_keys_insertAll hj annotations
  alone := by
    intro hj
    rw [fieldsOrEmpty, hj, Option.getD_none]
    exact congrArg Json.object (Entries.ofList_eq_self h)

end Json

/-! ### Definitions and operations -/

/-- A definition of the contract is shown under its name and its reference key. -/
def ShowsDefinition (e : String × Json) (shown : Json) : Prop :=
  Json.Annotates [("definitionName", .string e.1),
    ("referencePath", .string ("#/definitions/" ++ e.1))] e.2 shown

theorem showsDefinition_annotate (name : String) (body : Json) :
    ShowsDefinition (name, body) (Definition.annotate name body).body :=
  Json.annotates_insertAll (by simp [Entries.keys]) body

namespace Operation

/-- An operation is shown with its verb, its path and the whole item of the path. -/
def ShownAs (op : Operation) (shown : Json) : Prop :=
  ∃ pathDef, Json.Annotates [("pathString", .string op.path.path)]
      (.object op.path.fields.entries) pathDef ∧
    Json.Annotates [("operationString", .string op.verb), ("pathString", .string op.path.path),
      ("pathDef", pathDef)] op.body shown

theorem shownAs_annotated (op : Operation) : op.ShownAs op.annotated :=
  ⟨op.path.annotated, Json.annotates_insertAll (by simp [Entries.keys]) _,
    Json.annotates_insertAll (by simp [Entries.keys]) _⟩

/-- The contract has the operation at one of its paths, under its verb. -/
def HeldBy (op : Operation) (c : Contract) : Prop :=
  op.path ∈ c.pathItems ∧ op.path.operation? op.verb = some op.body

end Operation

/-- The members of groups are operations of the contract. -/
theorem RouteGroups.heldBy_of_mem {c : Contract} {field : String} {verbs : List String}
    {groups : RouteGroups} (h : ofContract c field verbs = .ok groups)
    {g : String × List Operation} (hg : g ∈ groups.entries) {op : Operation} (hop : op ∈ g.2) :
    op.HeldBy c := by
  obtain ⟨assigned, hassigned, hgroups⟩ := bind_eq_ok.mp h
  obtain rfl := pure_eq_ok.mp hgroups
  rw [entries_collect] at hg
  obtain ⟨bucket, hbucket, rfl⟩ := List.mem_map.mp hg
  obtain ⟨a, ha, rfl⟩ := List.mem_map.mp hop
  rw [((mem_buckets Prod.fst assigned).mp hbucket).2] at ha
  obtain ⟨e, he, hassign⟩ := exists_of_mem_right (mapM_eq_ok.mp hassigned)
    (List.mem_of_mem_filter ha)
  obtain ⟨name, -, rfl⟩ := assign_eq_ok.mp hassign
  obtain ⟨item, hitem, he⟩ := List.mem_flatMap.mp he
  obtain ⟨op, hvisited, rfl⟩ := List.mem_map.mp he
  obtain ⟨-, hpath, hbody⟩ := PathItem.mem_operations.mp hvisited
  refine ⟨hpath ▸ List.mem_map_of_mem hitem, ?_⟩
  rwa [hpath]

/-! ### The document -/

/-- A field of the value, or of a value in it however deep, has the name. -/
inductive Json.HasName (name : String) : Json → Prop where
  | here {f : String × Json} {fields : List (String × Json)} (h : f ∈ fields) (hf : f.1 = name) :
    HasName name (.object fields)
  | field {f : String × Json} {fields : List (String × Json)} (h : f ∈ fields)
    (hf : HasName name f.2) : HasName name (.object fields)
  | item {j : Json} {items : List Json} (h : j ∈ items) (hj : HasName name j) :
    HasName name (.array items)

/-- A mapping in the value has a key of the name. -/
def Yaml.Value.HasName (name : String) (v : Yaml.Value) : Prop :=
  ∃ entries, Within (.mapping entries) v ∧ ∃ e ∈ entries, e.1.name? = some name

/-- All names in what is read from a value are written in it. -/
theorem Json.hasName_of_ofYaml {name : String} {v : Yaml.Value} {j : Json}
    (h : Json.ofYaml v = .ok j) (hname : j.HasName name) : v.HasName name := by
  induction v using Yaml.Value.inductionOn generalizing j with
  | sequence items ih =>
    obtain ⟨items', hitems, rfl⟩ := ofYaml_sequence_eq_ok.mp h
    cases hname with
    | item hj hname =>
      obtain ⟨item, hitem, hconverted⟩ := exists_of_mem_right hitems hj
      obtain ⟨entries, hwithin, he⟩ := ih item hitem hconverted hname
      exact ⟨entries, .item hitem hwithin, he⟩
  | mapping entries ih =>
    obtain ⟨fields, hfields, rfl⟩ := ofYaml_mapping_eq_ok.mp h
    cases hname with
    | here hf hname =>
      obtain ⟨e, he, hkey, -⟩ := exists_of_mem_right hfields (Entries.mem_of_mem_ofList hf)
      exact ⟨entries, .self _, e, he, hname ▸ hkey⟩
    | field hf hname =>
      obtain ⟨e, he, -, hconverted⟩ := exists_of_mem_right hfields (Entries.mem_of_mem_ofList hf)
      obtain ⟨inner, hwithin, hinner⟩ := ih e he hconverted hname
      exact ⟨inner, .entry he hwithin, hinner⟩
  | tagged tag v ih =>
    rw [ofYaml] at h
    obtain ⟨entries, hwithin, he⟩ := ih h hname
    exact ⟨entries, .tagged tag hwithin, he⟩
  | float x =>
    rw [ofYaml] at h
    split at h
    · cases h
      cases hname
    · cases h
  | _ =>
    cases h
    cases hname

/-! ### Contexts -/

theorem Subject.item?_context (fields : List (String × Json)) (name : String) :
    (context fields).item? (.string name) = (Entries.get? name fields).map .ofJson :=
  Value.valueAt?_ofJsonFields name fields

/-- What the template of a task sees of a contract in any case: its document as it is, and all its
definitions under their reference keys. -/
structure Task.Shows (t : Task) (c : Contract) : Prop where
  model : t.context.item? (.string "model") = some (.ofJson c.document)
  definitionMap : ∃ fields,
    t.context.item? (.string "definitionMap") = some (.ofJson (.object fields)) ∧
    List.Forall₂ (fun e f => f.1 = "#/definitions/" ++ e.1 ∧ ShowsDefinition e f.2)
      c.definitions.entries fields

namespace Subject

variable (c : Contract) (template : String)

theorem forall₂_toJson : ∃ fields, (ofContract c).index.toJson = .object fields ∧
    List.Forall₂ (fun e f => f.1 = "#/definitions/" ++ e.1 ∧ ShowsDefinition e f.2)
      c.definitions.entries fields := by
  refine ⟨_, DefinitionIndex.toJson_ofContract c, ?_⟩
  rw [List.forall₂_map_right_iff, List.forall₂_same]
  exact fun e _ => ⟨rfl, showsDefinition_annotate e.1 e.2⟩

theorem shows_definitionTask (rule : DefinitionRule) (d : Definition) :
    ((ofContract c).definitionTask template rule d).Shows c where
  model := by
    rw [definitionTask, item?_context]
    rfl
  definitionMap := by
    obtain ⟨fields, hfields, hshown⟩ := forall₂_toJson c
    refine ⟨fields, ?_, hshown⟩
    rw [definitionTask, item?_context, hfields]
    rfl

theorem shows_groupTask (rule : RouteRule) (key : String) (members : List Operation) :
    ((ofContract c).groupTask template rule key members).Shows c where
  model := by
    rw [groupTask, item?_context]
    rfl
  definitionMap := by
    obtain ⟨fields, hfields, hshown⟩ := forall₂_toJson c
    refine ⟨fields, ?_, hshown⟩
    rw [groupTask, item?_context, hfields]
    rfl

end Subject

/-- Every definition of a contract and every member of every group reaches its template with all
that the contract says of it, and the annotations besides; the document reaches all templates as it
was read, with no name in it that the text does not have. -/
theorem shown_with_annotations (c : Contract) (template : String) :
    (∀ rule, List.Forall₂ (fun e t => Task.Shows t c ∧ ∃ shown,
        t.context.item? (.string "definition") = some (.ofJson shown) ∧ ShowsDefinition e shown)
      c.definitions.entries ((Subject.ofContract c).definitionTasks template rule)) ∧
    (∀ rule groups, RouteGroups.ofContract c rule.groupBy rule.operations = .ok groups →
      List.Forall₂ (fun g t => Task.Shows t c ∧ ∃ shown,
          t.context.item? (.string "members") = some (.ofJson (.array shown)) ∧
          List.Forall₂ (fun op j => op.HeldBy c ∧ op.ShownAs j) g.2 shown)
        groups.entries ((Subject.ofContract c).groupTasks template rule groups)) ∧
    ∀ text, Contract.parse text = .ok c → ∃ v, Yaml.Value.ofText text = .ok v ∧
      Json.ofYaml v = .ok c.document ∧ ∀ name, c.document.HasName name → v.HasName name := by
  refine ⟨fun rule => ?_, fun rule groups hgroups => ?_, fun text htext => ?_⟩
  · have htasks : (Subject.ofContract c).definitionTasks template rule =
        c.definitions.entries.map fun e =>
          (Subject.ofContract c).definitionTask template rule (.annotate e.1 e.2) := by
      rw [Subject.definitionTasks, Subject.ofContract, DefinitionIndex.toList_ofContract,
        List.map_map]
      rfl
    rw [htasks, List.forall₂_map_right_iff, List.forall₂_same]
    intro e _
    refine ⟨Subject.shows_definitionTask c template rule _, _, ?_, showsDefinition_annotate e.1 e.2⟩
    rw [Subject.definitionTask, Subject.item?_context]
    rfl
  · rw [Subject.groupTasks, List.forall₂_map_right_iff, List.forall₂_same]
    intro g hg
    refine ⟨Subject.shows_groupTask c template rule g.1 g.2, g.2.map Operation.annotated, ?_, ?_⟩
    · rw [Subject.groupTask, Subject.item?_context]
      rfl
    · rw [List.forall₂_map_right_iff, List.forall₂_same]
      exact fun op hop => ⟨RouteGroups.heldBy_of_mem hgroups hg hop, op.shownAs_annotated⟩
  · unfold Contract.parse at htext
    split at htext
    · rename_i v hv
      obtain ⟨hdocument, -⟩ := Contract.ofYaml_eq_ok.mp (mapError_eq_ok.mp htext)
      exact ⟨v, hv, hdocument, fun name => Json.hasName_of_ofYaml hdocument⟩
    · cases htext

end ContractPress
