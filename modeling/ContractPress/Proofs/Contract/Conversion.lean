import ContractPress.Contract.Reader
import ContractPress.Proofs.Entries
import ContractPress.Proofs.Results
import ContractPress.Proofs.Yaml.Value
import Mathlib.Data.Option.Basic

/-!
What structured data keeps of a YAML value.

`Mirrors` says that all is kept but the tags. It is exactly if the keys of each mapping have
different names, and then a contract holds all entries of its document (`mirrors_iff_namesApart`).
Keys of one name, such as a number and a text, share one field.
-/

namespace ContractPress

namespace Yaml.Value

/-- The text under which a key becomes a name, if it is a scalar. -/
def name? (key : Value) : Option String :=
  (Json.fieldName key).toOption

theorem name?_eq_some {key : Value} {name : String} :
    key.name? = some name ↔ Json.fieldName key = .ok name := by
  rw [name?]
  cases Json.fieldName key <;> simp [Except.toOption]

/-- The value of the last entry under a name. -/
def lastNamed (name : String) (entries : List (Value × Value)) : Option Value :=
  (entries.reverse.find? fun e => e.1.name? = some name).map Prod.snd

/-- The entries of the mapping that a mapping holds under a name. -/
def section? (v : Value) (name : String) : Option (List (Value × Value)) := do
  (← lastNamed name (← v.entries?)).entries?

/-- The keys of each mapping in a value have different names. -/
def NamesApart (v : Value) : Prop :=
  ∀ w, Within w v → ∀ entries, w = .mapping entries → (entries.map fun e => e.1.name?).Nodup

theorem namesApart_of_scalar {v : Value} (h : v.isScalar = true) : v.NamesApart := by
  rw [NamesApart, forall_within_scalar h]
  intro entries he
  subst he
  cases h

theorem namesApart_sequence {items : List Value} :
    (Value.sequence items).NamesApart ↔ ∀ item ∈ items, item.NamesApart := by
  rw [NamesApart, forall_within_sequence]
  exact ⟨And.right, fun h => ⟨nofun, h⟩⟩

theorem namesApart_mapping {entries : List (Value × Value)} :
    (Value.mapping entries).NamesApart ↔
      (entries.map fun e => e.1.name?).Nodup ∧ ∀ e ∈ entries, e.2.NamesApart := by
  rw [NamesApart, forall_within_mapping]
  simp [NamesApart]

theorem namesApart_tagged {tag : String} {v : Value} :
    (Value.tagged tag v).NamesApart ↔ v.NamesApart := by
  rw [NamesApart, forall_within_tagged]
  exact ⟨And.right, fun h => ⟨nofun, h⟩⟩

theorem NamesApart.of_entries? {v : Value} (h : v.NamesApart) {entries : List (Value × Value)}
    (he : v.entries? = some entries) :
    (entries.map fun e => e.1.name?).Nodup ∧ ∀ e ∈ entries, e.2.NamesApart := by
  induction v using inductionOn with
  | mapping entries' =>
    obtain rfl := Option.some.inj he
    exact namesApart_mapping.mp h
  | tagged tag v ih => exact ih (namesApart_tagged.mp h) he
  | _ => cases he

end Yaml.Value

open Yaml (Value)

/-! ### Entries as fields -/

/-- There is one field for each entry, in the same order, under the name of its key. -/
def Transcribed {α : Type} (R : Value → α → Prop) (entries : List (Value × Value))
    (fields : Entries String α) : Prop :=
  List.Forall₂ (fun e f => e.1.name? = some f.1 ∧ R e.2 f.2) entries fields

section

variable {α : Type} {R : Value → α → Prop} {entries : List (Value × Value)}

theorem transcribed_iff {fields : Entries String α} :
    Transcribed R entries fields ↔ entries.map (fun e => e.1.name?) = fields.keys.map some ∧
      List.Forall₂ R (entries.map Prod.snd) fields.values := by
  unfold Transcribed Entries.keys Entries.values
  induction entries generalizing fields with
  | nil => cases fields <;> simp
  | cons e entries ih =>
    cases fields with
    | nil => simp
    | cons f fields =>
      simp only [List.forall₂_cons, List.map_cons, List.cons.injEq, ih]
      exact and_and_and_comm

theorem Transcribed.keys_eq {fields : Entries String α} (h : Transcribed R entries fields) :
    fields.keys = entries.filterMap fun e => e.1.name? := by
  have hnames := congrArg (List.filterMap id) (transcribed_iff.mp h).1
  rw [List.filterMap_map, List.filterMap_map] at hnames
  exact (hnames.trans List.filterMap_some).symm

theorem Transcribed.nodup_iff {fields : Entries String α} (h : Transcribed R entries fields) :
    (entries.map fun e => e.1.name?).Nodup ↔ fields.keys.Nodup := by
  rw [(transcribed_iff.mp h).1, List.nodup_map_iff (Option.some_injective String)]

/-- The last entry under a name is what a map has under that name. -/
theorem Transcribed.rel_get? {pairs : List (String × α)} (h : Transcribed R entries pairs)
    (name : String) :
    Option.Rel R (Yaml.Value.lastNamed name entries) ((Entries.ofList pairs).get? name) := by
  rw [Entries.get?_ofList, Yaml.Value.lastNamed]
  have hreverse := List.forall₂_reverse_iff.mpr h
  generalize entries.reverse = entries' at hreverse
  generalize pairs.reverse = pairs' at hreverse
  induction hreverse with
  | nil => exact .none
  | @cons e f _ _ hef _ ih =>
    by_cases hname : f.1 = name
    · rw [List.find?_cons_of_pos (by simpa [hef.1] using hname), Entries.get?, if_pos hname]
      exact .some hef.2
    · rw [List.find?_cons_of_neg (by simpa [hef.1] using hname), Entries.get?, if_neg hname]
      exact ih

end

namespace Json

theorem itemsOfYaml_eq (items : List Value) : itemsOfYaml items = items.mapM ofYaml := by
  induction items with
  | nil => rfl
  | cons item items ih => rw [itemsOfYaml, ih, List.mapM_cons]

/-- An entry as a field. -/
def fieldOfYaml (e : Value × Value) : Except ParseFault (String × Json) := do
  return (← fieldName e.1, ← ofYaml e.2)

theorem fieldsOfYaml_eq (entries : List (Value × Value)) :
    fieldsOfYaml entries = entries.mapM fieldOfYaml := by
  induction entries with
  | nil => rfl
  | cons e entries ih =>
    rw [fieldsOfYaml, ih, List.mapM_cons, fieldOfYaml]
    simp only [bind_assoc, pure_bind]

/-- What the entries of a mapping become, before fields of one name are put together. -/
abbrev FieldsOf (entries : List (Value × Value)) (fields : Entries String Json) : Prop :=
  Transcribed (fun w j => ofYaml w = .ok j) entries fields

theorem fieldsOfYaml_eq_ok {entries : List (Value × Value)} {fields : Entries String Json} :
    fieldsOfYaml entries = .ok fields ↔ FieldsOf entries fields := by
  rw [fieldsOfYaml_eq, mapM_eq_ok, FieldsOf, Transcribed]
  refine iff_of_eq (congrArg (List.Forall₂ · entries fields) ?_)
  funext e f
  simp only [Yaml.Value.name?_eq_some, fieldOfYaml, bind_eq_ok, pure_eq_ok, Prod.ext_iff,
    eq_iff_iff]
  constructor
  · intro h
    obtain ⟨name, hname, value, hvalue, rfl, rfl⟩ := h
    exact ⟨hname, hvalue⟩
  · intro h
    exact ⟨f.1, h.1, f.2, h.2, rfl, rfl⟩

theorem ofYaml_sequence_eq_ok {items : List Value} {j : Json} :
    ofYaml (.sequence items) = .ok j ↔
      ∃ items', List.Forall₂ (fun w j => ofYaml w = .ok j) items items' ∧ .array items' = j := by
  simp only [ofYaml, itemsOfYaml_eq, bind_eq_ok, mapM_eq_ok, pure_eq_ok]

theorem ofYaml_mapping_eq_ok {entries : List (Value × Value)} {j : Json} :
    ofYaml (.mapping entries) = .ok j ↔
      ∃ fields, FieldsOf entries fields ∧ .object (Entries.ofList fields) = j := by
  simp only [ofYaml, fieldsOfYaml_eq_ok, bind_eq_ok, pure_eq_ok]

/-- A mapping becomes an object, and nothing else does. -/
theorem rel_fields?_ofYaml {v : Value} {j : Json} (h : ofYaml v = .ok j) :
    Option.Rel (fun entries fields => ∃ pairs, FieldsOf entries pairs ∧
      Entries.ofList pairs = fields) v.entries? j.fields? := by
  induction v using Yaml.Value.inductionOn with
  | mapping entries =>
    obtain ⟨pairs, hpairs, rfl⟩ := ofYaml_mapping_eq_ok.mp h
    exact .some ⟨pairs, hpairs, rfl⟩
  | sequence items =>
    obtain ⟨items', -, rfl⟩ := ofYaml_sequence_eq_ok.mp h
    exact .none
  | float x =>
    rw [ofYaml] at h
    split at h
    · cases h
      exact .none
    · cases h
  | tagged tag v ih =>
    rw [ofYaml] at h
    exact ih h
  | _ =>
    cases h
    exact .none

end Json

/-! ### What is kept -/

/-- Structured data holds all that a value holds, but for the tags. -/
inductive Mirrors : Value → Json → Prop where
  | null : Mirrors .null .null
  | bool (b : Bool) : Mirrors (.bool b) (.bool b)
  | integer (n : Int) : Mirrors (.integer n) (.integer n)
  | float (x : Float) : Mirrors (.float x) (.float x)
  | string (s : String) : Mirrors (.string s) (.string s)
  | sequence {items : List Value} {items' : List Json} (h : List.Forall₂ Mirrors items items') :
    Mirrors (.sequence items) (.array items')
  /-- One field for each entry, in the same order, under the name of its key. -/
  | mapping {entries : List (Value × Value)} {fields : Entries String Json}
    (names : entries.map (fun e => e.1.name?) = fields.keys.map some)
    (values : List.Forall₂ Mirrors (entries.map Prod.snd) fields.values) :
    Mirrors (.mapping entries) (.object fields)
  | tagged {v : Value} {j : Json} (tag : String) (h : Mirrors v j) : Mirrors (.tagged tag v) j

open Json in
theorem mirrors_iff {v : Value} {j : Json} (h : ofYaml v = .ok j) : Mirrors v j ↔ v.NamesApart := by
  induction v using Yaml.Value.inductionOn generalizing j with
  | sequence items ih =>
    obtain ⟨items', hitems, rfl⟩ := ofYaml_sequence_eq_ok.mp h
    rw [Yaml.Value.namesApart_sequence, ← forall₂_iff_forall hitems fun item hi j => ih item hi]
    exact ⟨fun h => by cases h; assumption, .sequence⟩
  | mapping entries ih =>
    obtain ⟨fields, hfields, rfl⟩ := ofYaml_mapping_eq_ok.mp h
    obtain ⟨hnames, hvalues⟩ := transcribed_iff.mp hfields
    have hmirrors : List.Forall₂ Mirrors (entries.map Prod.snd) fields.values ↔
        ∀ e ∈ entries, e.2.NamesApart := by
      rw [← List.forall_mem_map (f := Prod.snd) (P := fun w : Value => w.NamesApart)]
      refine forall₂_iff_forall hvalues fun w hw j => ?_
      obtain ⟨e, he, rfl⟩ := List.mem_map.mp hw
      exact ih e he
    rw [Yaml.Value.namesApart_mapping, hfields.nodup_iff, ← hmirrors]
    constructor
    · intro h
      cases h with
      | mapping names values =>
        -- the entries have the names of the object, which are different
        have hkeys := List.map_injective_iff.mpr (Option.some_injective String)
          (hnames.symm.trans names)
        have hapart : fields.keys.Nodup := hkeys ▸ Entries.nodup_keys_ofList fields
        rw [Entries.ofList_eq_self hapart] at values
        exact ⟨hapart, values⟩
    · intro h
      obtain ⟨hapart, values⟩ := h
      rw [Entries.ofList_eq_self hapart]
      exact .mapping hnames values
  | tagged tag v ih =>
    rw [ofYaml] at h
    rw [Yaml.Value.namesApart_tagged, ← ih h]
    exact ⟨fun h => by cases h; assumption, .tagged tag⟩
  | float x =>
    rw [ofYaml] at h
    split at h
    · cases h
      exact iff_of_true (.float x) (Yaml.Value.namesApart_of_scalar rfl)
    · cases h
  | _ =>
    cases h
    exact iff_of_true (by constructor) (Yaml.Value.namesApart_of_scalar rfl)

theorem Mirrors.transcribed {v : Value} {j : Json} (h : Mirrors v j) :
    Transcribed Mirrors (v.entries?.getD []) j.fieldsOrEmpty := by
  induction v using Yaml.Value.inductionOn with
  | mapping entries =>
    cases h with
    | mapping names values => exact transcribed_iff.mpr ⟨names, values⟩
  | tagged tag v ih =>
    cases h with
    | tagged _ h => exact ih h
  | _ =>
    cases h
    exact .nil

/-- Where names are apart, entries are fields one for one, and all in them is kept. -/
theorem Json.FieldsOf.transcribed {entries : List (Value × Value)} {pairs : Entries String Json}
    (h : Json.FieldsOf entries pairs) (hnames : (entries.map fun e => e.1.name?).Nodup)
    (hvalues : ∀ e ∈ entries, e.2.NamesApart) :
    Transcribed Mirrors entries (Entries.ofList pairs) := by
  rw [Entries.ofList_eq_self (h.nodup_iff.mp hnames)]
  exact forall₂_imp_mem h fun e he f hef => ⟨hef.1, (mirrors_iff hef.2).mpr (hvalues e he)⟩

namespace Yaml.Value

theorem mem_of_lastNamed {name : String} {entries : List (Value × Value)} {w : Value}
    (h : lastNamed name entries = some w) : ∃ e ∈ entries, e.1.name? = some name ∧ e.2 = w := by
  obtain ⟨e, he, rfl⟩ := Option.map_eq_some_iff.mp h
  exact ⟨e, List.mem_reverse.mp (List.mem_of_find?_eq_some he),
    by simpa using List.find?_some he, rfl⟩

theorem section?_eq_bind (v : Value) (name : String) :
    v.section? name = (v.entries? >>= lastNamed name) >>= entries? :=
  (bind_assoc _ _ _).symm

theorem NamesApart.of_lastNamed {v w : Value} (h : v.NamesApart) {name : String}
    (hw : v.entries? >>= lastNamed name = some w) : w.NamesApart := by
  obtain ⟨root, hroot, hlast⟩ := Option.bind_eq_some_iff.mp hw
  obtain ⟨e, hmem, -, rfl⟩ := mem_of_lastNamed hlast
  exact (h.of_entries? hroot).2 e hmem

theorem NamesApart.of_section? {v : Value} (h : v.NamesApart) {name : String}
    {entries : List (Value × Value)} (he : v.section? name = some entries) :
    (entries.map fun e => e.1.name?).Nodup ∧ ∀ e ∈ entries, e.2.NamesApart := by
  rw [section?_eq_bind] at he
  obtain ⟨w, hw, hentries⟩ := Option.bind_eq_some_iff.mp he
  exact (h.of_lastNamed hw).of_entries? hentries

end Yaml.Value

namespace Json

theorem nodup_fieldsOrEmpty {v : Value} {j : Json} (h : ofYaml v = .ok j) :
    j.fieldsOrEmpty.keys.Nodup := by
  have hrel := rel_fields?_ofYaml h
  rw [fieldsOrEmpty]
  generalize v.entries? = entries, j.fields? = fields at hrel
  cases hrel with
  | none => exact List.nodup_nil
  | some h =>
    obtain ⟨pairs, -, rfl⟩ := h
    exact Entries.nodup_keys_ofList pairs

theorem rel_field?_ofYaml {v : Value} {j : Json} (h : ofYaml v = .ok j) (name : String) :
    Option.Rel (fun w j => ofYaml w = .ok j) (v.entries? >>= Yaml.Value.lastNamed name)
      (j.field? name) := by
  have hrel := rel_fields?_ofYaml h
  rw [field?, fieldsOrEmpty]
  generalize v.entries? = entries, j.fields? = fields at hrel
  cases hrel with
  | none => exact .none
  | some h =>
    obtain ⟨pairs, hpairs, rfl⟩ := h
    exact hpairs.rel_get? name

theorem rel_section?_ofYaml {v : Value} {j : Json} (h : ofYaml v = .ok j) (name : String) :
    Option.Rel (fun entries fields => ∃ pairs, FieldsOf entries pairs ∧
      Entries.ofList pairs = fields) (v.section? name) (j.field? name >>= fields?) := by
  have hrel := rel_field?_ofYaml h name
  rw [Yaml.Value.section?_eq_bind]
  generalize v.entries? >>= Yaml.Value.lastNamed name = w, j.field? name = j' at hrel
  cases hrel with
  | none => exact .none
  | some h => exact rel_fields?_ofYaml h

theorem exists_section_of_field? {v : Value} {j : Json} (h : ofYaml v = .ok j) {name : String}
    {fields : Entries String Json} (hfield : j.field? name = some (.object fields)) :
    ∃ entries pairs, v.section? name = some entries ∧ FieldsOf entries pairs ∧
      Entries.ofList pairs = fields := by
  have hrel := rel_section?_ofYaml h name
  rw [hfield] at hrel
  generalize v.section? name = section? at hrel
  cases hrel with
  | @some entries _ h =>
    obtain ⟨pairs, hpairs, he⟩ := h
    exact ⟨entries, pairs, rfl, hpairs, he⟩

/-- No name occurs twice in an object that comes from a mapping, nor in the objects in it. -/
theorem nodup_of_fieldsOf {entries : List (Value × Value)} {pairs : Entries String Json}
    (h : FieldsOf entries pairs) :
    ∀ e ∈ Entries.ofList pairs, e.2.fieldsOrEmpty.keys.Nodup := by
  intro e he
  obtain ⟨e', -, -, hvalue⟩ := exists_of_mem_right h (Entries.mem_of_mem_ofList he)
  exact nodup_fieldsOrEmpty hvalue

end Json

namespace Contract

theorem pathsOf_eq_ok {fields : Entries String Json} {paths : OrderedMap PathItem} :
    pathsOf fields = .ok paths ↔ ∃ items, fields.get? "paths" = some (.object items) ∧
      .ofList (items.map fun e => (e.1, ⟨e.1, .ofList e.2.fieldsOrEmpty⟩)) = paths := by
  unfold pathsOf
  split <;> simp_all

theorem ofYaml_eq_ok {v : Value} {c : Contract} : ofYaml v = .ok c ↔
    Json.ofYaml v = .ok c.document ∧ ∃ fields, c.document.fields? = some fields ∧
      pathsOf fields = .ok c.paths ∧ definitionsOf fields = .ok c.definitions := by
  obtain ⟨document, paths, definitions⟩ := c
  rw [ofYaml, bind_eq_ok]
  constructor
  · intro h
    obtain ⟨j, hj, h⟩ := h
    unfold ofDocument at h
    split at h
    · rename_i fields
      simp only [bind_eq_ok, pure_eq_ok] at h
      obtain ⟨paths', hpaths, definitions', hdefinitions, he⟩ := h
      cases he
      exact ⟨hj, fields, rfl, hpaths, hdefinitions⟩
    · cases h
  · intro h
    obtain ⟨hdocument, fields, hfields, hpaths, hdefinitions⟩ := h
    refine ⟨document, hdocument, ?_⟩
    cases document with
    | object fields' =>
      obtain rfl := Option.some.inj hfields
      simp only [ofDocument, bind_eq_ok, pure_eq_ok]
      exact ⟨paths, hpaths, definitions, hdefinitions, rfl⟩
    | _ => cases hfields

/-- The items of the paths are the entries under that name, one for one. -/
theorem entries_paths {v : Value} {c : Contract} (h : ofYaml v = .ok c) :
    ∃ items, c.document.field? "paths" = some (.object items) ∧
      c.paths.entries.map (fun e => (e.1, e.2.path, e.2.fields.entries)) =
        items.map fun e => (e.1, e.1, e.2.fieldsOrEmpty) := by
  obtain ⟨hdocument, fields, hfields, hpaths, -⟩ := ofYaml_eq_ok.mp h
  obtain ⟨items, hitems, hmap⟩ := pathsOf_eq_ok.mp hpaths
  have hfield : c.document.field? "paths" = some (.object items) := by
    rw [Json.field?, Json.fieldsOrEmpty, hfields]
    exact hitems
  obtain ⟨entries, pairs, -, hpairs, rfl⟩ := Json.exists_section_of_field? hdocument hfield
  refine ⟨_, hfield, ?_⟩
  have hnodup : ((Entries.ofList pairs).map Prod.fst).Nodup := Entries.nodup_keys_ofList pairs
  rw [← hmap, OrderedMap.entries_ofList, Entries.ofList_eq_self (by rwa [List.map_map]),
    List.map_map]
  refine List.map_congr_left fun e he => ?_
  have hitem := Entries.ofList_eq_self (Json.nodup_of_fieldsOf hpairs e he)
  simp only [Function.comp_apply, OrderedMap.entries_ofList, hitem]

theorem entries_definitions {v : Value} {c : Contract} (h : ofYaml v = .ok c) :
    c.definitions.entries = ((c.document.field? "definitions").getD .null).fieldsOrEmpty := by
  obtain ⟨hdocument, fields, hfields, -, hdefinitions⟩ := ofYaml_eq_ok.mp h
  have hfield : c.document.field? "definitions" = fields.get? "definitions" := by
    rw [Json.field?, Json.fieldsOrEmpty, hfields, Option.getD_some]
  unfold definitionsOf at hdefinitions
  rw [← hfield] at hdefinitions
  split at hdefinitions
  · rename_i bodies hbodies
    obtain ⟨entries, pairs, -, -, rfl⟩ := Json.exists_section_of_field? hdocument hbodies
    rw [← Except.ok.inj hdefinitions, hbodies, OrderedMap.entries_ofList]
    exact Entries.ofList_eq_self (Entries.nodup_keys_ofList pairs)
  · rename_i hnull
    rw [← Except.ok.inj hdefinitions, hnull]
    rfl
  · rename_i hnone
    rw [← Except.ok.inj hdefinitions, hnone]
    rfl
  · cases hdefinitions

end Contract

/-- A mapping becomes an object that has each name once, in the order of first occurrences, with
what the last entry under it becomes. -/
theorem Json.exists_object_of_entries? {v : Value} {j : Json} (h : ofYaml v = .ok j)
    {entries : List (Value × Value)} (hentries : v.entries? = some entries) :
    ∃ fields : Entries String Json, j = .object fields ∧
      fields.keys = (entries.filterMap fun e => e.1.name?).eraseDups ∧
      ∀ name, Option.Rel (fun w j => ofYaml w = .ok j) (Yaml.Value.lastNamed name entries)
        (fields.get? name) := by
  have hrel := rel_fields?_ofYaml h
  rw [hentries] at hrel
  cases j with
  | object fields =>
    cases hrel with
    | some h =>
      obtain ⟨pairs, hpairs, he⟩ := h
      refine ⟨fields, rfl, ?_, ?_⟩
      · rw [← he, Entries.keys_ofList, ← hpairs.keys_eq]
        rfl
      · rw [← he]
        exact hpairs.rel_get?
  | _ => cases hrel

/-- What is converted is kept whole exactly if the keys of each mapping have different names. In any
case a mapping becomes an object that has each name once, in the order of first occurrences, with
what the last entry under it becomes.

So where names are apart, each entry of the paths, of the definitions and of each path item is found
in the contract. -/
theorem mirrors_iff_namesApart (v : Value) :
    (∀ j, Json.ofYaml v = .ok j → (Mirrors v j ↔ v.NamesApart) ∧
      ∀ entries, v.entries? = some entries → ∃ fields : Entries String Json, j = .object fields ∧
        fields.keys = (entries.filterMap fun e => e.1.name?).eraseDups ∧
        ∀ name, Option.Rel (fun w j => Json.ofYaml w = .ok j) (Yaml.Value.lastNamed name entries)
          (fields.get? name)) ∧
    ∀ c, Contract.ofYaml v = .ok c → v.NamesApart → Mirrors v c.document ∧
      ∃ paths, v.section? "paths" = some paths ∧
        Transcribed (fun w item => Transcribed Mirrors (w.entries?.getD []) item.fields.entries)
          paths c.paths.entries ∧
        Transcribed Mirrors ((v.section? "definitions").getD []) c.definitions.entries := by
  refine ⟨fun j h => ⟨mirrors_iff h, fun entries => Json.exists_object_of_entries? h⟩, ?_⟩
  intro c h hapart
  have hdocument := (Contract.ofYaml_eq_ok.mp h).1
  refine ⟨(mirrors_iff hdocument).mpr hapart, ?_⟩
  obtain ⟨items, hitems, hpaths⟩ := Contract.entries_paths h
  obtain ⟨paths, pairs, hsection, hpairs, rfl⟩ := Json.exists_section_of_field? hdocument hitems
  obtain ⟨hnames, hvalues⟩ := hapart.of_section? hsection
  refine ⟨paths, hsection, ?_, ?_⟩
  · have hmirrored := hpairs.transcribed hnames hvalues
    have hitem : List.Forall₂ (fun e x => e.1.name? = some x.1 ∧
        Transcribed Mirrors (e.2.entries?.getD []) x.2.2) paths
        (c.paths.entries.map fun e => (e.1, e.2.path, e.2.fields.entries)) := by
      rw [hpaths, List.forall₂_map_right_iff]
      exact hmirrored.imp fun e f hef => ⟨hef.1, hef.2.transcribed⟩
    exact List.forall₂_map_right_iff.mp hitem
  · have hrel := Json.rel_field?_ofYaml hdocument "definitions"
    rw [Contract.entries_definitions h, Yaml.Value.section?_eq_bind]
    cases hw : v.entries? >>= Yaml.Value.lastNamed "definitions" with
    | none =>
      rw [hw] at hrel
      generalize c.document.field? "definitions" = field at hrel
      cases hrel
      exact .nil
    | some w =>
      rw [hw] at hrel
      generalize c.document.field? "definitions" = field at hrel
      cases hrel with
      | some hvalue => exact ((mirrors_iff hvalue).mpr (hapart.of_lastNamed hw)).transcribed

/-- Keys of four kinds, one of them tagged, in a contract of which nothing is lost. -/
theorem mixed_keys_kept :
    let responses : Value := .mapping [(.integer 200, .string "ok"), (.bool true, .integer 2),
      (.tagged "t" .null, .sequence [.integer (-1)]), (.string "2", .tagged "t" (.bool true))]
    let v : Value := .mapping [(.string "paths", .mapping [(.string "/a", responses)]),
      (.string "definitions", .tagged "t" (.mapping [(.integer (-1), responses)]))]
    v.NamesApart ∧ ∃ c, Contract.ofYaml v = .ok c ∧ Mirrors v c.document ∧
      c.document.fields?.map Entries.keys = some ["paths", "definitions"] ∧
      c.paths.keys = ["/a"] ∧ c.definitions.keys = ["-1"] := by
  intro responses v
  have hresponses : responses.NamesApart := by
    refine Yaml.Value.namesApart_mapping.mpr ⟨by decide, ?_⟩
    simp only [List.forall_mem_cons, Yaml.Value.namesApart_tagged, Yaml.Value.namesApart_sequence]
    and_intros <;> first | exact Yaml.Value.namesApart_of_scalar rfl | exact nofun
  have hapart : v.NamesApart := by
    simp [v, Yaml.Value.namesApart_mapping, Yaml.Value.namesApart_tagged, hresponses]
    decide
  obtain ⟨c, hc⟩ : ∃ c, Contract.ofYaml v = .ok c := ⟨_, rfl⟩
  have hdocument := (Contract.ofYaml_eq_ok.mp hc).1
  obtain ⟨hvalue, hcontract⟩ := mirrors_iff_namesApart v
  obtain ⟨hmirrors, paths, hpaths, htranscribed, hdefinitions⟩ := hcontract c hc hapart
  obtain ⟨fields, hfields, hnames, -⟩ := (hvalue c.document hdocument).2 _ rfl
  refine ⟨hapart, c, hc, hmirrors, ?_, ?_, ?_⟩
  · rw [hfields, Json.fields?, Option.map_some, hnames]
    decide
  · obtain rfl := Option.some.inj hpaths
    exact htranscribed.keys_eq.trans (by decide)
  · exact hdefinitions.keys_eq.trans (by decide)

/-- A number and a text with the same name: the first entry is lost, also from a contract's text. -/
theorem entry_lost_under_shared_name :
    let v : Value := .mapping [(.integer 1, .string "a"), (.string "1", .string "b")]
    let j : Json := .object [("1", .string "b")]
    Json.ofYaml v = .ok j ∧ ¬Mirrors v j ∧
      (Contract.parse "paths: {}\ndefinitions:\n  1: a\n  \"1\": b\n").map
        (fun c => c.definitions.keys) = .ok ["1"] := by
  intro v j
  have hconverted : Json.ofYaml v = .ok j := rfl
  refine ⟨hconverted, ?_, by decide +kernel⟩
  rw [mirrors_iff hconverted, Yaml.Value.namesApart_mapping]
  exact fun h => absurd h.1 (by decide)

end ContractPress
