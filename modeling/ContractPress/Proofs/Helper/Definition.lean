import ContractPress.Helper.Block
import ContractPress.Proofs.Contract.Index
import ContractPress.Proofs.Template.Lookup

/-!
Resolving references to definitions in templates.

The definitions of a contract reach templates as a map of values. A reference finds a definition in
this map if and only if the index has one under it: only texts are keys of the map, and as every
body bears its name, none of them is empty and taken for missing (`definition?_eq_some_iff`).
-/

namespace ContractPress

open Template

/-- The definitions as templates see them. -/
def DefinitionIndex.toValue (index : DefinitionIndex) : Value :=
  .ofJson index.toJson

/-- Whatever a definition is in the contract, its body in the index is a map that is not empty. -/
theorem DefinitionIndex.ofJson_body {c : Contract} {r : String} {d : Definition}
    (h : (ofContract c).get? r = some d) :
    ∃ e entries, Value.ofJson d.body = .map (e :: entries) := by
  have hne : ∀ (k : String) (v : Json) (fields : Entries String Json),
      ∃ f rest, fields.insert k v = f :: rest := by
    intro k v fields
    cases fields with
    | nil => exact ⟨_, _, rfl⟩
    | cons f rest =>
      rw [Entries.insert]
      split <;> exact ⟨_, _, rfl⟩
  obtain ⟨name, body, -, -, rfl⟩ := (get?_ofContract c).mp h
  obtain ⟨f, rest, hfields⟩ := hne "referencePath" (.string (referenceKey name))
    (body.fieldsOrEmpty.insert "definitionName" (.string name))
  exact ⟨_, _, by rw [Definition.annotate, hfields]; rfl⟩

namespace Helper

theorem isAbsent_eq_false_iff {v : Value} : v.isAbsent = false ↔ v ≠ .undefined ∧ v ≠ .none := by
  cases v <;> simp [Value.isAbsent]

theorem present?_string_eq_some_iff {container v : Value} {name : String} :
    present? container (.string name) = some v ↔
      (∃ entries, container = .map entries ∧ Value.FirstUnder name entries v) ∧
        v ≠ .undefined ∧ v ≠ .none := by
  rw [present?, Option.filter_eq_some_iff, Value.item?_string_eq_some_iff, Bool.not_eq_true',
    isAbsent_eq_false_iff]

/-- A value carries a reference: it is one, or it is a map that has one under `$ref`. Octets are a
reference, too, if they are the text of one. -/
def Carries (carrier reference : Value) : Prop :=
  reference.asText?.isSome ∧ (carrier = reference ∨
    ∃ entries, carrier = .map entries ∧ Value.FirstUnder "$ref" entries reference)

theorem isAbsent_of_asText? {v : Value} (h : v.asText?.isSome) : v.isAbsent = false := by
  cases v <;> first | rfl | cases h

theorem reference?_map_eq_some_iff {entries : List (Value × Value)} {reference : Value} :
    reference? (.map entries) = some reference ↔
      reference.asText?.isSome ∧ Value.FirstUnder "$ref" entries reference := by
  have hmap : reference? (.map entries) =
      (present? (.map entries) (.string "$ref")).filter fun v => v.asText?.isSome := rfl
  rw [hmap, Option.filter_eq_some_iff, present?_string_eq_some_iff]
  constructor
  · rintro ⟨⟨⟨_, he, hfirst⟩, -⟩, htext⟩
    cases he
    exact ⟨htext, hfirst⟩
  · rintro ⟨htext, hfirst⟩
    exact ⟨⟨⟨entries, rfl, hfirst⟩, isAbsent_eq_false_iff.mp (isAbsent_of_asText? htext)⟩, htext⟩

theorem reference?_eq_some_iff {carrier reference : Value} :
    reference? carrier = some reference ↔ Carries carrier reference := by
  by_cases htext : carrier.asText?.isSome
  · unfold reference?
    rw [if_pos htext, Option.some_inj]
    constructor
    · rintro rfl
      exact ⟨htext, .inl rfl⟩
    · rintro ⟨-, rfl | ⟨entries, rfl, -⟩⟩
      · rfl
      · cases htext
  · have hne : reference.asText?.isSome → carrier ≠ reference := fun h he => htext (he ▸ h)
    cases carrier with
    | map entries =>
      rw [reference?_map_eq_some_iff]
      constructor
      · rintro ⟨h, hfirst⟩
        exact ⟨h, .inr ⟨entries, rfl, hfirst⟩⟩
      · rintro ⟨h, he | ⟨_, he, hfirst⟩⟩
        · exact absurd he (hne h)
        · cases he
          exact ⟨h, hfirst⟩
    | _ =>
      unfold reference?
      rw [if_neg htext]
      refine ⟨nofun, ?_⟩
      rintro ⟨h, he | ⟨_, he, -⟩⟩
      · exact absurd he (hne h)
      · cases he

/-- A property carries a reference: it is one, or it is a map that has one under `$ref`. -/
def Refers (property : Value) (r : String) : Prop :=
  property = .string r ∨
    ∃ entries, property = .map entries ∧ Value.FirstUnder "$ref" entries (.string r)

/-- What a property carries is a reference, or octets that are the text of one. -/
theorem Carries.cases {property v : Value} (h : Carries property v) :
    (∃ r, v = .string r ∧ Refers property r) ∨ ∃ octets, v = .bytes octets := by
  obtain ⟨htext, hcarries⟩ := h
  cases v with
  | string r => exact .inl ⟨r, rfl, hcarries⟩
  | bytes octets => exact .inr ⟨octets, rfl⟩
  | _ => cases htext

theorem reference?_of_refers {property : Value} {r : String} (h : Refers property r) :
    reference? property = some (.string r) :=
  reference?_eq_some_iff.mpr ⟨rfl, h⟩

/-- A property carries one reference at most. -/
theorem Refers.unique {property : Value} {r r' : String} (h : Refers property r)
    (h' : Refers property r') : r = r' :=
  Value.string.inj (Option.some.inj
    ((reference?_of_refers h).symm.trans (reference?_of_refers h')))

theorem isAbsent_of_isTrue {v : Value} (h : v.isTrue = true) : v.isAbsent = false := by
  cases v <;> first | rfl | cases h

/-- The definition is what there is under the reference that is carried, unless it is not true. -/
theorem definition?_eq_some_iff_carries {carrier definitions v : Value} :
    definition? carrier definitions = some v ↔
      ∃ reference, Carries carrier reference ∧ definitions.item? reference = some v ∧
        v.isTrue = true := by
  rw [definition?, Option.filter_eq_some_iff, Option.bind_eq_bind, Option.bind_eq_some_iff]
  simp only [reference?_eq_some_iff, present?, Option.filter_eq_some_iff, Bool.not_eq_true']
  constructor
  · rintro ⟨⟨reference, hcarries, hitem, -⟩, htrue⟩
    exact ⟨reference, hcarries, hitem, htrue⟩
  · rintro ⟨reference, hcarries, hitem, htrue⟩
    exact ⟨⟨reference, hcarries, hitem, isAbsent_of_isTrue htrue⟩, htrue⟩

variable {c : Contract}

/-- The map of definitions has a text's definition under it. -/
theorem item?_toValue (r : String) :
    (DefinitionIndex.ofContract c).toValue.item? (.string r) =
      ((DefinitionIndex.ofContract c).get? r).map fun d => .ofJson d.body := by
  refine (Value.valueAt?_ofJsonFields r _).trans ?_
  rw [Entries.get?_mapValues, Option.map_map]
  rfl

theorem definition?_eq_some_iff {property v : Value} :
    definition? property (DefinitionIndex.ofContract c).toValue = some v ↔
      ∃ r d, Refers property r ∧ (DefinitionIndex.ofContract c).get? r = some d ∧
        v = .ofJson d.body := by
  rw [definition?_eq_some_iff_carries]
  constructor
  · rintro ⟨reference, hcarries, hitem, -⟩
    rcases hcarries.cases with ⟨r, rfl, hrefers⟩ | ⟨octets, rfl⟩
    · rw [item?_toValue, Option.map_eq_some_iff] at hitem
      obtain ⟨d, hd, rfl⟩ := hitem
      exact ⟨r, d, hrefers, hd, rfl⟩
    · have hnone : (DefinitionIndex.ofContract c).toValue.item? (.bytes octets) = none :=
        Value.valueAt?_bytes_ofJsonFields octets _
      cases hnone.symm.trans hitem
  · rintro ⟨r, d, hrefers, hd, rfl⟩
    obtain ⟨e, entries, hbody⟩ := DefinitionIndex.ofJson_body hd
    refine ⟨.string r, ⟨rfl, hrefers⟩, ?_, ?_⟩
    · rw [item?_toValue, hd]
      rfl
    · rw [hbody]
      rfl

theorem withDefinition_of_found {property this : Value} {r : String} {d : Definition}
    (hrefers : Refers property r) (hd : (DefinitionIndex.ofContract c).get? r = some d) :
    withDefinition property (DefinitionIndex.ofContract c).toValue this =
      .primary (.ofJson d.body) := by
  rw [withDefinition, definition?_eq_some_iff.mpr ⟨r, d, hrefers, hd, rfl⟩]

theorem withDefinition_of_missing {property this : Value}
    (h : ¬∃ r d, Refers property r ∧ (DefinitionIndex.ofContract c).get? r = some d) :
    withDefinition property (DefinitionIndex.ofContract c).toValue this = .alternate this := by
  have hnone : definition? property (DefinitionIndex.ofContract c).toValue = none := by
    rw [Option.eq_none_iff_forall_ne_some]
    intro v hv
    obtain ⟨r, d, hrefers, hd, -⟩ := definition?_eq_some_iff.mp hv
    exact h ⟨r, d, hrefers, hd⟩
  rw [withDefinition, hnone]

/-- The primary version of a block runs, with the body of the definition, if the index has one under
the reference that the property carries; otherwise the alternate version runs with the context. So a
definition of the contract is found whatever its body, and nothing else is. -/
theorem withDefinition_agrees (c : Contract) (property this : Value) {m : Type → Type}
    (blocks : Blocks m) :
    let index := DefinitionIndex.ofContract c
    let run := blocks.run (withDefinition property (.ofJson index.toJson) this)
    (∀ r d, Refers property r → index.get? r = some d → run = blocks.primary (.ofJson d.body)) ∧
    ((¬∃ r d, Refers property r ∧ index.get? r = some d) → run = blocks.alternate this) ∧
    (∀ name body, (name, body) ∈ c.definitions.entries → Refers property (referenceKey name) →
      run = blocks.primary (.ofJson (Definition.annotate name body).body)) ∧
    ∀ r, Refers property r → (∀ name ∈ c.definitions.keys, r ≠ referenceKey name) →
      run = blocks.alternate this := by
  refine ⟨fun r d hrefers hd => ?_, fun hmissing => ?_, fun name body hmem hrefers => ?_,
    fun r hrefers hkey => ?_⟩
  · exact congrArg blocks.run (withDefinition_of_found hrefers hd)
  · exact congrArg blocks.run (withDefinition_of_missing hmissing)
  · exact congrArg blocks.run (withDefinition_of_found hrefers
      ((DefinitionIndex.get?_ofContract c).mpr ⟨name, body, hmem, rfl, rfl⟩))
  · refine congrArg blocks.run (withDefinition_of_missing ?_)
    rintro ⟨r', d, hrefers', hd⟩
    obtain ⟨name, body, hmem, hname, -⟩ := (DefinitionIndex.get?_ofContract c).mp hd
    exact hkey name (List.mem_map_of_mem hmem) ((hrefers.unique hrefers').trans hname)

example : withDefinition (.map [(.string "$ref", .string "#/definitions/Any")])
    (.ofJson (DefinitionIndex.ofContract ⟨.null, .empty, .ofList [("Any", .null)]⟩).toJson)
    .undefined = .primary (.map [(.string "definitionName", .string "Any"),
      (.string "referencePath", .string "#/definitions/Any")]) := by
  rfl

end Helper

end ContractPress
