import ContractPress.Proofs.Helper.Branching

/-!
Contexts with one of their values under a further name.

A context whose keys are texts keeps all its fields in their order when a value is put under a
further name, which comes last; a field that had this name gives way (`Extends`). This is what the
block of `property` runs for, whichever of the names coincide (`property_extends`).
-/

namespace ContractPress

open Template

/-- Gives the key a value, at the end of the map. -/
def OrderedMap.insertLast {α : Type} (m : OrderedMap α) (k : String) (v : α) : OrderedMap α where
  entries := m.entries.erase k ++ [(k, v)]
  nodup := by
    have hkeys : Entries.keys (m.entries.erase k ++ [(k, v)]) =
        (m.entries.keys.filter (· ≠ k)) ++ [k] := by
      rw [← Entries.keys_erase, Entries.keys, List.map_append]
      rfl
    rw [hkeys, List.nodup_append]
    refine ⟨m.nodup.filter _, List.nodup_singleton k, fun j hj i hi => ?_⟩
    obtain rfl := List.mem_singleton.mp hi
    exact of_decide_eq_true (List.mem_filter.mp hj).2

namespace Helper

variable (context : OrderedMap Value) (newName : String) (value : Value)

/-- A context is another one with a value under a further name. -/
structure Extends (extended : OrderedMap Value) : Prop where
  given : (Value.ofTexts extended).item? (.string newName) = some value
  /-- Whatever else is asked for, the answer has not changed. -/
  kept : ∀ key, key ≠ .string newName →
    (Value.ofTexts extended).item? key = (Value.ofTexts context).item? key
  keys : extended.keys = context.keys.filter (· ≠ newName) ++ [newName]

theorem extends_insertLast : Extends context newName value (context.insertLast newName value) where
  given := by
    rw [Value.item?_ofTexts]
    refine (Entries.get?_append newName _ _).trans ?_
    rw [Entries.get?_erase, if_pos rfl]
    simp [Entries.get?]
  kept := by
    intro key hkey
    rw [Value.item?_ofTexts, Value.item?_ofTexts]
    cases key with
    | string k =>
      have hne : k ≠ newName := fun h => hkey (congrArg Value.string h)
      refine (Entries.get?_append k _ _).trans ?_
      rw [Entries.get?_erase, if_neg hne]
      simp [Entries.get?, hne.symm, OrderedMap.get?]
    | _ => rfl
  keys := by
    refine (List.map_append (f := Prod.fst)).trans ?_
    exact congrArg (· ++ [newName]) (Entries.keys_erase newName context.entries)

theorem extended_textEntries : extended (Value.textEntries context.entries) newName value =
    .ofTexts (context.insertLast newName value) := by
  have hothers : (Value.textEntries context.entries).filter (fun e => e.1.asText? ≠ some newName) =
      Value.textEntries (context.entries.erase newName) := by
    rw [Value.textEntries, List.filter_map, Value.textEntries, Entries.erase]
    refine congrArg (List.map _) (List.filter_congr fun f _ => ?_)
    simp [Value.asText?]
  rw [extended_eq (Value.isMap_textEntries context), hothers, Value.ofTexts, OrderedMap.insertLast,
    Value.textEntries, Value.textEntries, List.map_append]
  rfl

/-- The block of `property` runs for a context with the value under a further name if the context
has a value under the first one that is neither undefined nor none, and otherwise in its alternate
version for the context itself. No step on the way fails. -/
theorem property_extends (context : OrderedMap Value) (name newName : String)
    (blocks : Blocks (Except Fault)) (noted : List Branch) :
    let helper := Choice.property (.ofTexts context) name newName
    let run := (helper.run blocks.recorded).run.run noted
    match (Value.ofTexts context).item? (.string name) with
    | none | some .undefined | some .none =>
      helper.attempt = .ok (.alternate (.ofTexts context)) ∧
        run = (blocks.alternate (.ofTexts context), noted ++ [.alternate (.ofTexts context)])
    | some value => ∃ extended, Extends context newName value extended ∧
        helper.attempt = .ok (.primary (.ofTexts extended)) ∧
        run = (blocks.primary (.ofTexts extended), noted ++ [.primary (.ofTexts extended)]) := by
  intro helper run
  have hpresent : present? (.ofTexts context) (.string name) =
      ((Value.ofTexts context).item? (.string name)).filter fun v => !v.isAbsent := rfl
  have halternate : present? (.ofTexts context) (.string name) = none →
      helper.attempt = .ok (.alternate (.ofTexts context)) ∧
        run = (blocks.alternate (.ofTexts context), noted ++ [.alternate (.ofTexts context)]) := by
    intro hnone
    have hbranch : helper.branch = .ok (.alternate (.ofTexts context)) :=
      congrArg Except.ok (property_of_none hnone newName)
    exact ⟨(Choice.attempt_eq_branch helper).trans hbranch,
      Choice.run_recorded_of_ok blocks noted hbranch⟩
  split
  case h_1 hitem | h_2 hitem | h_3 hitem => exact halternate (by rw [hpresent, hitem]; rfl)
  case h_4 value hundefined hnone hitem =>
    have hvalue : present? (.ofTexts context) (.string name) = some value := by
      rw [hpresent, hitem, Option.filter_some, if_pos]
      exact (Bool.not_eq_true' _).mpr (isAbsent_eq_false_iff.mpr ⟨hundefined, hnone⟩)
    have hbranch : helper.branch =
        .ok (.primary (.ofTexts (context.insertLast newName value))) := by
      rw [← extended_textEntries]
      exact congrArg Except.ok (property_of_some hvalue newName)
    exact ⟨_, extends_insertLast context newName value,
      (Choice.attempt_eq_branch helper).trans hbranch,
      Choice.run_recorded_of_ok blocks noted hbranch⟩

end Helper

end ContractPress
