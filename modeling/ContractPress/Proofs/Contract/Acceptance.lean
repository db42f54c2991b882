import ContractPress.Proofs.Contract.Conversion
import Mathlib

/-!
Which documents are contracts.

A document is one if it can be converted and has the outermost shape of a contract
(`IsContract`). Of several faults the first one is met: those of keys and numbers in document order,
then those of the shape.
-/

namespace ContractPress

namespace Yaml.Value

/-- What keeps a key from being a name. -/
def keyFaults (key : Value) : List ParseFault :=
  if key.untagged.isScalar then [] else [.unsupportedKey key.untagged]

mutual

/-- The keys and numbers that cannot be converted, in document order. -/
def faults : Value → List ParseFault
  | .null | .bool _ | .integer _ | .string _ => []
  | .float x => if x.isFinite then [] else [.unrepresentable (Json.unboundedName x)]
  | .sequence items => faultsOfItems items
  | .mapping entries => faultsOfEntries entries
  | .tagged _ v => faults v

def faultsOfItems : List Value → List ParseFault
  | [] => []
  | item :: rest => faults item ++ faultsOfItems rest

def faultsOfEntries : List (Value × Value) → List ParseFault
  | [] => []
  | (key, value) :: rest => keyFaults key ++ faults value ++ faultsOfEntries rest

end

def pathsFaults (paths : Option Value) : List ParseFault :=
  match paths.map untagged with
  | some (.mapping _) => []
  | some _ => [.pathsNotMapping]
  | none => [.pathsMissing]

def definitionsFaults (definitions : Option Value) : List ParseFault :=
  match definitions.map untagged with
  | none | some .null | some (.mapping _) => []
  | some _ => [.definitionsNotMapping]

/-- What a document lacks in outermost shape. -/
def shapeFaults (v : Value) : List ParseFault :=
  match v.entries? with
  | some root =>
    pathsFaults (lastNamed "paths" root) ++ definitionsFaults (lastNamed "definitions" root)
  | none => [.rootNotMapping]

/-- The keys of each mapping in a value are scalars, tags apart. -/
def ScalarKeys (v : Value) : Prop :=
  ∀ w, Within w v → ∀ entries, w = .mapping entries → ∀ e ∈ entries, e.1.untagged.isScalar = true

/-- Each number in a value is finite; keys do not count. -/
def FiniteNumbers (v : Value) : Prop :=
  ∀ w, Within w v → ∀ x, w = .float x → x.isFinite = true

/-- The documents that are contracts. -/
structure IsContract (v : Value) : Prop where
  keys : v.ScalarKeys
  numbers : v.FiniteNumbers
  shape : ∃ root, v.untagged = .mapping root ∧
    (∃ paths, (lastNamed "paths" root).map untagged = some (.mapping paths)) ∧
    ∀ w, lastNamed "definitions" root = some w →
      w.untagged = .null ∨ ∃ definitions, w.untagged = .mapping definitions

/-! ### Faults of keys and numbers -/

theorem faultsOfItems_eq (items : List Value) : faultsOfItems items = items.flatMap faults := by
  induction items with
  | nil => rfl
  | cons item items ih => rw [faultsOfItems, ih, List.flatMap_cons]

theorem faultsOfEntries_eq (entries : List (Value × Value)) :
    faultsOfEntries entries = entries.flatMap fun e => keyFaults e.1 ++ faults e.2 := by
  induction entries with
  | nil => rfl
  | cons e entries ih => rw [faultsOfEntries, ih, List.flatMap_cons]

theorem keyFaults_eq_nil {key : Value} : key.keyFaults = [] ↔ key.untagged.isScalar = true := by
  simp [keyFaults]

theorem faults_eq_nil {v : Value} : v.faults = [] ↔ v.ScalarKeys ∧ v.FiniteNumbers := by
  induction v using inductionOn with
  | sequence items ih =>
    have hitems : (∀ item ∈ items, item.faults = []) ↔
        ∀ item ∈ items, item.ScalarKeys ∧ item.FiniteNumbers := forall₂_congr ih
    rw [faults, faultsOfItems_eq, List.flatMap_eq_nil_iff, hitems, ScalarKeys, FiniteNumbers,
      forall_within_sequence, forall_within_sequence]
    simp [ScalarKeys, FiniteNumbers, forall_and]
  | mapping entries ih =>
    have hentries : (∀ e ∈ entries, keyFaults e.1 ++ e.2.faults = []) ↔ ∀ e ∈ entries,
        e.1.untagged.isScalar = true ∧ e.2.ScalarKeys ∧ e.2.FiniteNumbers := by
      refine forall₂_congr fun e he => ?_
      rw [List.append_eq_nil_iff, keyFaults_eq_nil, ih e he]
    rw [faults, faultsOfEntries_eq, List.flatMap_eq_nil_iff, hentries, ScalarKeys, FiniteNumbers,
      forall_within_mapping, forall_within_mapping]
    simp [ScalarKeys, FiniteNumbers, forall_and, and_assoc]
  | tagged tag v ih =>
    rw [faults, ih, ScalarKeys, FiniteNumbers, ScalarKeys, FiniteNumbers, forall_within_tagged,
      forall_within_tagged]
    simp
  | _ =>
    rw [ScalarKeys, FiniteNumbers, forall_within_scalar rfl, forall_within_scalar rfl]
    simp [faults]

theorem fieldName_failsFirst (key : Value) : FailsFirst (Json.fieldName key) key.keyFaults := by
  induction key using inductionOn with
  | bool b => cases b <;> exact .ok _
  | sequence items | mapping entries => exact .error _
  | tagged tag v ih =>
    rw [Json.fieldName]
    exact ih
  | _ => exact .ok _

/-- A value is converted if there is no fault in it, and otherwise the first one is met. -/
theorem ofYaml_failsFirst (v : Value) : FailsFirst (Json.ofYaml v) v.faults := by
  induction v using inductionOn with
  | float x =>
    rw [Json.ofYaml, faults]
    split
    · exact .ok _
    · exact .error _
  | sequence items ih =>
    rw [Json.ofYaml, faults, Json.itemsOfYaml_eq, faultsOfItems_eq]
    exact (FailsFirst.mapM ih).bind_pure Json.array
  | mapping entries ih =>
    rw [Json.ofYaml, faults, Json.fieldsOfYaml_eq, faultsOfEntries_eq]
    refine (FailsFirst.mapM fun e he => ?_).bind_pure fun fields =>
      Json.object (Entries.ofList fields)
    exact (fieldName_failsFirst e.1).bind fun name _ => (ih e he).bind_pure (name, ·)
  | tagged tag v ih =>
    rw [Json.ofYaml, faults]
    exact ih
  | _ => exact .ok _

/-! ### Faults of the shape -/

theorem untagged_eq_mapping {v : Value} {entries : List (Value × Value)} :
    v.untagged = .mapping entries ↔ v.entries? = some entries := by
  unfold entries?
  cases v.untagged <;> simp

theorem pathsFaults_eq_nil {paths : Option Value} :
    pathsFaults paths = [] ↔ ∃ entries, paths.map untagged = some (.mapping entries) := by
  unfold pathsFaults
  cases paths.map untagged with
  | none => simp
  | some w => cases w <;> simp

theorem definitionsFaults_eq_nil {definitions : Option Value} :
    definitionsFaults definitions = [] ↔ ∀ w, definitions = some w →
      w.untagged = .null ∨ ∃ entries, w.untagged = .mapping entries := by
  unfold definitionsFaults
  cases definitions with
  | none => simp
  | some w => cases h : w.untagged <;> simp [h]

theorem shapeFaults_eq_nil {v : Value} : v.shapeFaults = [] ↔
    ∃ root, v.untagged = .mapping root ∧
      (∃ paths, (lastNamed "paths" root).map untagged = some (.mapping paths)) ∧
      ∀ w, lastNamed "definitions" root = some w →
        w.untagged = .null ∨ ∃ definitions, w.untagged = .mapping definitions := by
  simp only [untagged_eq_mapping (v := v)]
  rw [shapeFaults]
  cases v.entries? with
  | none => simp
  | some root => simp [pathsFaults_eq_nil, definitionsFaults_eq_nil]

theorem isContract_iff {v : Value} : v.IsContract ↔ v.faults = [] ∧ v.shapeFaults = [] := by
  rw [faults_eq_nil, shapeFaults_eq_nil]
  exact ⟨fun h => ⟨⟨h.keys, h.numbers⟩, h.shape⟩, fun h => ⟨h.1.1, h.1.2, h.2⟩⟩

end Yaml.Value

open Yaml (Value)

namespace Json

/-- What a converted value is: an object for a mapping, null for null, or else neither. -/
theorem ofYaml_cases {v : Value} {j : Json} (h : ofYaml v = .ok j) :
    (∃ entries fields, v.untagged = .mapping entries ∧ j = .object fields) ∨
    (v.untagged = .null ∧ j = .null) ∨
    ((∀ entries, v.untagged ≠ .mapping entries) ∧ v.untagged ≠ .null) ∧
      (∀ fields, j ≠ .object fields) ∧ j ≠ .null := by
  induction v using Yaml.Value.inductionOn with
  | null =>
    cases h
    exact .inr (.inl ⟨rfl, rfl⟩)
  | mapping entries =>
    obtain ⟨pairs, -, rfl⟩ := ofYaml_mapping_eq_ok.mp h
    exact .inl ⟨entries, _, rfl, rfl⟩
  | sequence items =>
    obtain ⟨items', -, rfl⟩ := ofYaml_sequence_eq_ok.mp h
    exact .inr (.inr (by simp [Value.untagged]))
  | float x =>
    rw [ofYaml] at h
    split at h
    · cases h
      exact .inr (.inr (by simp [Value.untagged]))
    · cases h
  | tagged tag v ih =>
    rw [ofYaml] at h
    exact ih h
  | _ =>
    cases h
    exact .inr (.inr (by simp [Value.untagged]))

end Json

namespace Contract

open Yaml.Value

section

variable {fields : Entries String Json} {w : Option Value}

theorem pathsOf_failsFirst
    (h : Option.Rel (fun w j => Json.ofYaml w = .ok j) w (fields.get? "paths")) :
    FailsFirst (pathsOf fields) (pathsFaults w) := by
  rw [pathsOf]
  generalize fields.get? "paths" = field at h
  cases h with
  | none => exact .error _
  | some h =>
    rw [pathsFaults, Option.map_some]
    obtain ⟨entries, items, hw, rfl⟩ | ⟨hw, rfl⟩ | ⟨hw, hj⟩ := Json.ofYaml_cases h
    · rw [hw]
      exact .ok _
    · rw [hw]
      exact .error _
    · split <;> split <;> simp_all
      exact .error _

theorem definitionsOf_failsFirst
    (h : Option.Rel (fun w j => Json.ofYaml w = .ok j) w (fields.get? "definitions")) :
    FailsFirst (definitionsOf fields) (definitionsFaults w) := by
  rw [definitionsOf]
  generalize fields.get? "definitions" = field at h
  cases h with
  | none => exact .ok _
  | some h =>
    rw [definitionsFaults, Option.map_some]
    obtain ⟨entries, items, hw, rfl⟩ | ⟨hw, rfl⟩ | ⟨hw, hj⟩ := Json.ofYaml_cases h
    · rw [hw]
      exact .ok _
    · rw [hw]
      exact .ok _
    · split <;> split <;> simp_all
      exact .error _

theorem ofDocument_failsFirst {v : Value} {j : Json} (h : Json.ofYaml v = .ok j) :
    FailsFirst (ofDocument j) v.shapeFaults := by
  have hrel := Json.rel_fields?_ofYaml h
  rw [shapeFaults]
  cases j with
  | object fields =>
    generalize v.entries? = root at hrel
    cases hrel with
    | some h =>
      obtain ⟨pairs, hpairs, he⟩ := h
      have hget := he ▸ hpairs.rel_get?
      refine (pathsOf_failsFirst (hget "paths")).bind fun paths _ => ?_
      exact (definitionsOf_failsFirst (hget "definitions")).bind_pure _
  | _ =>
    generalize v.entries? = root at hrel
    cases hrel
    exact .error _

theorem ofYaml_failsFirst (v : Value) : FailsFirst (ofYaml v) (v.faults ++ v.shapeFaults) :=
  v.ofYaml_failsFirst.bind fun _ => ofDocument_failsFirst

end

end Contract

/-- Exactly the documents of the grammar are read, and of several faults the first one is met. The
contract has the entries of the converted document, in order; each item has its own key as its path
and the fields of its mapping. -/
theorem ofYaml_ok_iff_isContract (v : Value) :
    ((∃ c, Contract.ofYaml v = .ok c) ↔ v.IsContract) ∧
    (∀ c, Contract.ofYaml v = .ok c → Json.ofYaml v = .ok c.document ∧
      (∃ items, c.document.field? "paths" = some (.object items) ∧
        c.paths.entries.map (fun e => (e.1, e.2.path, e.2.fields.entries)) =
          items.map fun e => (e.1, e.1, e.2.fieldsOrEmpty)) ∧
      c.definitions.entries = ((c.document.field? "definitions").getD .null).fieldsOrEmpty) ∧
    (∀ fault, Contract.ofYaml v = .error fault ↔
      (v.faults ++ v.shapeFaults).head? = some fault) ∧
    ∀ text, Value.ofText text = .ok v →
      Contract.parse text = (Contract.ofYaml v).mapError Failure.parse := by
  refine ⟨?_, fun c h => ?_, Contract.ofYaml_failsFirst v, fun text h => ?_⟩
  · rw [(Contract.ofYaml_failsFirst v).exists_ok_iff, List.append_eq_nil_iff,
      Yaml.Value.isContract_iff]
  · exact ⟨(Contract.ofYaml_eq_ok.mp h).1, Contract.entries_paths h,
      Contract.entries_definitions h⟩
  · rw [Contract.parse, h]

/-- A contract with tags around all of its parts, one that comes from a text, and a document with
four faults, of which the first two are keys. -/
theorem tagged_contract_and_first_fault :
    let v : Value := .tagged "t" (.mapping
      [(.tagged "t" (.string "paths"), .tagged "t" (.mapping
        [(.string "/a", .tagged "t" (.mapping [(.string "get", .null)])), (.integer 1, .null)])),
      (.string "definitions", .null)])
    let w : Value := .mapping [(.string "definitions", .sequence
      [.mapping [(.tagged "t" (.tagged "u" (.sequence [.null])), .null), (.mapping [], .null)]]),
      (.string "paths", .null)]
    (∃ c, Contract.ofYaml v = .ok c ∧
      c.paths.entries.map (fun e => (e.1, e.2.path, e.2.fields.entries)) =
        [("/a", "/a", [("get", .null)]), ("1", "1", [])] ∧
      c.definitions.entries = []) ∧
    Contract.ofYaml w = .error (.unsupportedKey (.sequence [.null])) ∧
    Contract.parse "paths: {}\n" =
      (Contract.ofYaml (.mapping [(.string "paths", .mapping [])])).mapError Failure.parse := by
  intro v w
  refine ⟨?_, (ofYaml_ok_iff_isContract w).2.2.1 _ |>.mpr rfl, ?_⟩
  · have hv : v.IsContract := Yaml.Value.isContract_iff.mpr ⟨rfl, rfl⟩
    obtain ⟨haccepts, hcontract, -⟩ := ofYaml_ok_iff_isContract v
    obtain ⟨c, hc⟩ := haccepts.mpr hv
    obtain ⟨hdocument, ⟨items, hitems, hpaths⟩, hdefinitions⟩ := hcontract c hc
    rw [← Except.ok.inj hdocument] at hitems hdefinitions
    cases Option.some.inj hitems
    exact ⟨c, hc, hpaths, hdefinitions⟩
  · have htext : Value.ofText "paths: {}\n" = .ok (.mapping [(.string "paths", .mapping [])]) := by
      cbv
    exact (ofYaml_ok_iff_isContract _).2.2.2 _ htext

end ContractPress
