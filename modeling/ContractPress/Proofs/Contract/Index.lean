import ContractPress.Contract.DefinitionIndex
import ContractPress.Proofs.Entries

/-!
The index of a contract holds its definitions, one for one and in document order.

`Indexes` says this of the three views of an index: its keys, what is found under a key, and the
object that templates see. It is so for every contract, whatever its names are and whatever fields
its definitions have (`indexes_ofContract`).
-/

namespace ContractPress

/-- No two names have one reference key. -/
theorem referenceKey_injective : Function.Injective referenceKey :=
  fun _ _ => (String.append_right_inj definitionsPointer).mp

namespace DefinitionIndex

variable (c : Contract)

theorem entries_ofContract : (ofContract c).definitions.entries =
    c.definitions.entries.map fun e => (referenceKey e.1, Definition.annotate e.1 e.2) := by
  apply Entries.ofList_eq_self
  have hnodup := c.definitions.nodup.map referenceKey_injective
  rw [Entries.keys, List.map_map] at hnodup
  rwa [List.map_map]

theorem toList_ofContract :
    (ofContract c).toList = c.definitions.entries.map fun e => Definition.annotate e.1 e.2 := by
  rw [toList, OrderedMap.values, entries_ofContract, Entries.values, List.map_map]
  rfl

theorem toJson_ofContract : (ofContract c).toJson = .object
    (c.definitions.entries.map fun e =>
      (referenceKey e.1, (Definition.annotate e.1 e.2).body)) := by
  rw [toJson, entries_ofContract, Entries.mapValues, List.map_map]
  rfl

theorem get?_ofContract {r : String} {d : Definition} : (ofContract c).get? r = some d ↔
    ∃ name body, (name, body) ∈ c.definitions.entries ∧ r = referenceKey name ∧
      d = Definition.annotate name body := by
  rw [get?, OrderedMap.get?, Entries.get?_eq_some_iff (ofContract c).definitions.nodup,
    entries_ofContract, List.mem_map]
  constructor
  · rintro ⟨⟨name, body⟩, hmem, he⟩
    obtain ⟨rfl, rfl⟩ := Prod.mk.inj he
    exact ⟨name, body, hmem, rfl, rfl⟩
  · rintro ⟨name, body, hmem, rfl, rfl⟩
    exact ⟨(name, body), hmem, rfl⟩

theorem keys_ofContract : (ofContract c).keys = c.definitions.keys.map referenceKey := by
  rw [keys, OrderedMap.keys, entries_ofContract, OrderedMap.keys, Entries.keys, Entries.keys,
    List.map_map, List.map_map]
  rfl

/-- An index holds the definitions of a contract under their reference keys. -/
structure Indexes (index : DefinitionIndex) (c : Contract) : Prop where
  /-- There is one entry for each definition, in document order. -/
  keys : index.keys = c.definitions.keys.map fun name => "#/definitions/" ++ name
  distinct : index.keys.Nodup
  /-- The definitions come in the order of their keys, and know their names and keys. -/
  names : index.toList.map Definition.name = c.definitions.keys
  references : index.toList.map Definition.reference = index.keys
  /-- What is found under a key is the definition whose name follows the pointer in it. -/
  found : ∀ k name, (∃ d, index.get? k = some d ∧ d.name = name) ↔
    k = "#/definitions/" ++ name ∧ name ∈ c.definitions.keys
  missing : ∀ k, index.get? k = none ↔ ∀ name ∈ c.definitions.keys, k ≠ "#/definitions/" ++ name
  listed : ∀ k d, index.get? k = some d ↔ d ∈ index.toList ∧ d.reference = k
  /-- The object has the same keys in the same order, each with the body of its definition. -/
  json : index.toJson = .object (index.toList.map fun d => (d.reference, d.body))
  /-- A definition is made from the body that the contract has under its name. -/
  source : ∀ d ∈ index.toList, ∃ body, (d.name, body) ∈ c.definitions.entries ∧
    d = .annotate d.name body
  annotated : ∀ d ∈ index.toList, d.body.field? "definitionName" = some (.string d.name) ∧
    d.body.field? "referencePath" = some (.string d.reference)

/-- The annotations replace fields of their names. -/
theorem field?_annotate (name : String) (body : Json) :
    (Definition.annotate name body).body.field? "definitionName" = some (.string name) ∧
    (Definition.annotate name body).body.field? "referencePath" =
      some (.string (referenceKey name)) := by
  have hfield : ∀ k, (Definition.annotate name body).body.field? k =
      ((body.fieldsOrEmpty.insert "definitionName" (.string name)).insert "referencePath"
        (.string (referenceKey name))).get? k := fun _ => rfl
  simp [hfield, Entries.get?_insert]

theorem mem_toList_ofContract {d : Definition} : d ∈ (ofContract c).toList ↔
    ∃ name body, (name, body) ∈ c.definitions.entries ∧ d = Definition.annotate name body := by
  rw [toList_ofContract, List.mem_map]
  constructor
  · rintro ⟨⟨name, body⟩, hmem, rfl⟩
    exact ⟨name, body, hmem, rfl⟩
  · rintro ⟨name, body, hmem, rfl⟩
    exact ⟨(name, body), hmem, rfl⟩

theorem get?_ofContract_eq_some_iff_mem {k : String} {d : Definition} :
    (ofContract c).get? k = some d ↔ d ∈ (ofContract c).toList ∧ d.reference = k := by
  rw [get?_ofContract, mem_toList_ofContract]
  constructor
  · rintro ⟨name, body, hmem, rfl, rfl⟩
    exact ⟨⟨name, body, hmem, rfl⟩, rfl⟩
  · rintro ⟨⟨name, body, hmem, rfl⟩, rfl⟩
    exact ⟨name, body, hmem, rfl, rfl⟩

theorem get?_ofContract_eq_none {k : String} :
    (ofContract c).get? k = none ↔ ∀ name ∈ c.definitions.keys, k ≠ referenceKey name := by
  have hnone : (ofContract c).get? k = none ↔ k ∉ (ofContract c).keys :=
    Entries.get?_eq_none_iff
  rw [hnone, keys_ofContract, List.mem_map]
  constructor
  · intro h name hname hk
    exact h ⟨name, hname, hk.symm⟩
  · rintro h ⟨name, hname, hk⟩
    exact h name hname hk.symm

/-- Every definition of a contract is indexed once, under the pointer followed by its name, and
nothing else is; all views of the index agree in content and order. -/
theorem indexes_ofContract : (ofContract c).Indexes c where
  keys := keys_ofContract c
  distinct := (ofContract c).definitions.nodup
  names := by
    rw [toList_ofContract, List.map_map]
    rfl
  references := by
    rw [toList_ofContract, keys_ofContract, OrderedMap.keys, Entries.keys, List.map_map,
      List.map_map]
    rfl
  found := by
    intro k name
    constructor
    · rintro ⟨d, hd, rfl⟩
      obtain ⟨name, body, hmem, rfl, rfl⟩ := (get?_ofContract c).mp hd
      exact ⟨rfl, List.mem_map_of_mem hmem⟩
    · rintro ⟨rfl, hname⟩
      obtain ⟨⟨_, body⟩, hmem, rfl⟩ := List.mem_map.mp hname
      exact ⟨_, (get?_ofContract c).mpr ⟨_, body, hmem, rfl, rfl⟩, rfl⟩
  missing := fun _ => get?_ofContract_eq_none c
  listed := fun _ _ => get?_ofContract_eq_some_iff_mem c
  json := by
    rw [toJson_ofContract, toList_ofContract, List.map_map]
    rfl
  source := by
    intro d hd
    obtain ⟨name, body, hmem, rfl⟩ := (mem_toList_ofContract c).mp hd
    exact ⟨body, hmem, rfl⟩
  annotated := by
    intro d hd
    obtain ⟨name, body, -, rfl⟩ := (mem_toList_ofContract c).mp hd
    exact field?_annotate name body

/-- A name may be empty, or be the pointer itself, and a body may have fields of the annotations. -/
example :
    let c : Contract := ⟨.null, .empty, .ofList [("", .null), ("#/definitions/",
      .object [("referencePath", .null), ("definitionName", .bool true)])]⟩
    (ofContract c).keys = ["#/definitions/", "#/definitions/#/definitions/"] ∧
      ((ofContract c).get? "#/definitions/").map Definition.name = some "" := by
  decide

end DefinitionIndex

end ContractPress
