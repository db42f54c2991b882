import ContractPress.Proofs.Entries
import ContractPress.Template.Value.Equality
import Mathlib.Data.List.Induction

/-!
Finding the value of a text in a map of template values, and making maps.

A text equals no value but itself, so both ways to look through a map find the first entry under it
(`valueAt?_string_eq_some_iff`), and a map made from an object has a text's field under it. Pairs
whose keys do not match are the map that they describe (`mapOf_eq_self`).
-/

namespace ContractPress.Template.Value

/-- The first entry of a map under a text holds the value. -/
def FirstUnder (name : String) (entries : List (Value × Value)) (value : Value) : Prop :=
  ∃ before after, entries = before ++ (.string name, value) :: after ∧
    ∀ e ∈ before, e.1 ≠ .string name

theorem eq_string_iff {s : String} {k : Value} : eq (.string s) k = true ↔ k = .string s := by
  cases k <;> simp [eq, eqAtom, eq_comm]

theorem keyMatches_string_iff {s : String} {k : Value} :
    keyMatches (.string s) k = true ↔ k = .string s := by
  cases k <;> simp [keyMatches, matchesAtom, kind, eqAtom, eq_comm]

theorem eq_text_iff {key : Value} {s : String} : eq key (.string s) = true ↔ key = .string s := by
  cases key <;> simp [eq, eqAtom]

theorem keyMatches_text_iff {key : Value} {s : String} :
    keyMatches key (.string s) = true ↔ key = .string s := by
  cases key <;> simp [keyMatches, matchesAtom, kind, eqAtom]

/-- Where equality tells kinds apart, it does not matter how many entries a map has. -/
theorem valueAt?_eq_find? {key : Value} {entries : List (Value × Value)}
    (h : ∀ e ∈ entries, eq key e.1 = keyMatches key e.1) :
    valueAt? key entries = (entries.find? fun e => keyMatches key e.1).map Prod.snd := by
  match entries with
  | [] => rfl
  | [e] =>
    rw [valueAt?, h e List.mem_cons_self, List.find?_singleton]
    split <;> rfl
  | _ :: _ :: _ => rfl

theorem valueAt?_string (s : String) (entries : List (Value × Value)) :
    valueAt? (.string s) entries =
      (entries.find? fun e => keyMatches (.string s) e.1).map Prod.snd := by
  refine valueAt?_eq_find? fun e _ => ?_
  rw [Bool.eq_iff_iff, eq_string_iff, keyMatches_string_iff]

theorem valueAt?_string_eq_some_iff {s : String} {entries : List (Value × Value)} {v : Value} :
    valueAt? (.string s) entries = some v ↔ FirstUnder s entries v := by
  have hfind : ∀ k, (entries.find? fun e => keyMatches (.string s) e.1) = some (k, v) ↔
      k = .string s ∧ ∃ before after, entries = before ++ (k, v) :: after ∧
        ∀ e ∈ before, e.1 ≠ .string s := by
    intro k
    simp only [List.find?_eq_some_iff_append, keyMatches_string_iff, Bool.not_eq_true',
      ← Bool.not_eq_true, ne_eq]
  rw [valueAt?_string, Option.map_eq_some_iff]
  constructor
  · rintro ⟨⟨k, _⟩, hk, rfl⟩
    obtain ⟨rfl, hfirst⟩ := (hfind k).mp hk
    exact hfirst
  · exact fun hfirst => ⟨_, (hfind _).mpr ⟨rfl, hfirst⟩, rfl⟩

theorem item?_string_eq_some_iff {container v : Value} {name : String} :
    container.item? (.string name) = some v ↔
      ∃ entries, container = .map entries ∧ FirstUnder name entries v := by
  cases container <;>
    simp [item?, atIndex?, asIndex?, valueAt?_string_eq_some_iff]

/-! ### Maps whose keys are texts -/

/-- Values under texts, as the entries of a map. -/
def textEntries (fields : Entries String Value) : List (Value × Value) :=
  fields.map fun f => (.string f.1, f.2)

/-- Nothing but a text finds a value under a text. -/
theorem valueAt?_textEntries (key : Value) (fields : Entries String Value) :
    valueAt? key (textEntries fields) = match key with
      | .string s => fields.get? s
      | _ => Option.none := by
  rw [valueAt?_eq_find?]
  · induction fields with
    | nil => cases key <;> rfl
    | cons f rest ih =>
      rw [textEntries, List.map_cons, List.find?_cons, ← textEntries]
      by_cases hf : key = .string f.1
      · subst hf
        rw [keyMatches_text_iff.mpr rfl]
        simp [Entries.get?]
      · rw [Bool.eq_false_iff.mpr fun h => hf (keyMatches_text_iff.mp h), ih]
        cases key with
        | string s => exact (if_neg fun h => hf (congrArg string h.symm)).symm
        | _ => rfl
  · intro e he
    obtain ⟨f, -, rfl⟩ := List.mem_map.mp he
    rw [Bool.eq_iff_iff, eq_text_iff, keyMatches_text_iff]

/-- The map of values under texts. -/
def ofTexts (fields : OrderedMap Value) : Value :=
  .map (textEntries fields.entries)

theorem item?_ofTexts (key : Value) (fields : OrderedMap Value) :
    (ofTexts fields).item? key = match key with
      | .string s => fields.get? s
      | _ => Option.none :=
  valueAt?_textEntries key fields.entries

theorem ofJsonItems_eq_map (items : List Json) :
    ofJsonItems items = items.map ofJson := by
  induction items with
  | nil => rfl
  | cons item rest ih => rw [ofJsonItems, ih, List.map_cons]

theorem ofJsonFields_eq_textEntries (fields : List (String × Json)) :
    ofJsonFields fields = textEntries (Entries.mapValues ofJson fields) := by
  induction fields with
  | nil => rfl
  | cons f rest ih =>
    rw [ofJsonFields, ih]
    rfl

theorem valueAt?_ofJsonFields (s : String) (fields : List (String × Json)) :
    valueAt? (.string s) (ofJsonFields fields) = (Entries.get? s fields).map ofJson := by
  rw [ofJsonFields_eq_textEntries, valueAt?_textEntries]
  exact Entries.get?_mapValues ofJson s fields

/-- Octets are no key of a map made from an object, though they be the text of one. -/
theorem valueAt?_bytes_ofJsonFields (octets : List UInt8) (fields : List (String × Json)) :
    valueAt? (.bytes octets) (ofJsonFields fields) = Option.none := by
  rw [ofJsonFields_eq_textEntries, valueAt?_textEntries]

/-! ### Maps from pairs -/

/-- Each key has its own entry, by which it is found. -/
structure IsMap (entries : List (Value × Value)) : Prop where
  found : ∀ e ∈ entries, valueAt? e.1 entries = some e.2
  apart : entries.Pairwise fun e f => keyMatches f.1 e.1 = false

/-- Different texts are keys of their own. -/
theorem isMap_of_texts {entries : List (Value × Value)}
    (htexts : ∀ e ∈ entries, ∃ s, e.1 = .string s) (hnodup : (entries.map Prod.fst).Nodup) :
    IsMap entries where
  found := by
    intro e he
    obtain ⟨s, hs⟩ := htexts e he
    obtain ⟨before, after, rfl⟩ := List.append_of_mem he
    rw [List.map_append, List.map_cons] at hnodup
    rw [hs, valueAt?_string_eq_some_iff]
    refine ⟨before, after, by rw [← hs], fun f hf hkey => ?_⟩
    exact List.disjoint_of_nodup_append hnodup (List.mem_map_of_mem hf)
      (by rw [hkey, ← hs]; exact List.mem_cons_self)
  apart := by
    rw [List.Nodup, List.pairwise_map] at hnodup
    refine hnodup.imp_of_mem fun {e f} _ hf hne => ?_
    obtain ⟨s, hs⟩ := htexts f hf
    rw [hs, Bool.eq_false_iff, ne_eq, keyMatches_string_iff, ← hs]
    exact hne

theorem isMap_textEntries (fields : OrderedMap Value) : IsMap (textEntries fields.entries) := by
  refine isMap_of_texts (fun e he => ?_) ?_
  · obtain ⟨f, -, rfl⟩ := List.mem_map.mp he
    exact ⟨f.1, rfl⟩
  · have hnodup := fields.nodup.map fun s t => string.inj
    rw [Entries.keys, List.map_map] at hnodup
    rwa [textEntries, List.map_map]

theorem insertEntry_of_unmatched {key : Value} {entries : List (Value × Value)}
    (h : ∀ e ∈ entries, keyMatches key e.1 = false) (value : Value) :
    insertEntry key value entries = entries ++ [(key, value)] := by
  induction entries with
  | nil => rfl
  | cons e rest ih =>
    rw [List.forall_mem_cons] at h
    rw [insertEntry, h.1, ih h.2]
    rfl

theorem mapOf_eq_self {pairs : List (Value × Value)}
    (h : pairs.Pairwise fun e f => keyMatches f.1 e.1 = false) : mapOf pairs = .map pairs := by
  refine congrArg Value.map ?_
  induction pairs using List.reverseRecOn with
  | nil => rfl
  | append_singleton pairs e ih =>
    obtain ⟨hpairs, -, hlast⟩ := List.pairwise_append.mp h
    rw [List.foldl_append, List.foldl_cons, List.foldl_nil, ih hpairs, insertEntry_of_unmatched]
    exact fun f hf => hlast f hf e List.mem_cons_self

end ContractPress.Template.Value
