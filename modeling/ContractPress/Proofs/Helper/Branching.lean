import ContractPress.Proofs.Helper.Definition
import ContractPress.Proofs.Results
import ContractPress.Template.Rendering

/-!
Which version of its block a helper runs.

`Selects` says when a branching helper chooses the primary version, and for which context; otherwise
it chooses the alternate one. Nothing but an operator that is not known keeps a helper from
choosing, and the version that is chosen runs once (`one_version_runs`).
-/

namespace ContractPress

open Template

namespace Comparison

/-- The operators that templates can compare by. -/
def operators : List String :=
  ["==", "===", "!=", "<", ">", "<=", ">=", "typeof"]

theorem exists_evaluate {operator : String} (h : operator ∈ operators) (l r : Value) :
    ∃ b, evaluate l operator r = .ok b := by
  simp only [operators, List.mem_cons, List.not_mem_nil, or_false] at h
  rcases h with rfl | rfl | rfl | rfl | rfl | rfl | rfl | rfl <;> exact ⟨_, rfl⟩

theorem evaluate_of_unknown {operator : String} (h : operator ∉ operators) (l r : Value) :
    evaluate l operator r =
      .error ⟨.invalidOperation, some ("unknown compare operator: " ++ operator)⟩ := by
  simp only [operators, List.mem_cons, List.not_mem_nil, or_false, not_or] at h
  unfold evaluate
  split <;> simp_all

end Comparison

/-! ### Records of what runs -/

/-- Computations that note the versions of a block that they run. -/
abbrev Recorded :=
  ExceptT Fault (StateM (List Branch))

/-- The block that notes each of its versions when it runs. -/
def Blocks.recorded (blocks : Blocks (Except Fault)) : Blocks Recorded where
  primary context := do
    modify (· ++ [.primary context])
    blocks.primary context
  alternate context := do
    modify (· ++ [.alternate context])
    blocks.alternate context

theorem Blocks.run_recorded (blocks : Blocks (Except Fault)) (branch : Branch)
    (noted : List Branch) :
    (blocks.recorded.run branch).run.run noted = (blocks.run branch, noted ++ [branch]) := by
  cases branch <;> rfl

namespace Helper

/-! ### Runs -/

/-- What becomes of the text of the block. -/
def Change.text : Change → String → String
  | .lowerFirst => Text.lowerFirst
  | .upperFirst => Text.upperFirst
  | .lowercase => Text.lowercase
  | .uppercase => Text.uppercase
  | .capsplit joiner => (Text.splitOnCapitals · joiner)

theorem Change.run_eq {m : Type → Type} [Monad m] (change : Change) (blocks : Blocks m) :
    change.run blocks = change.text <$> blocks.primary .undefined := by
  cases change <;> rfl

section

variable (blocks : Blocks (Except Fault)) (noted : List Branch)

theorem Choice.run_recorded_of_ok {choice : Choice} {b : Branch} (h : choice.branch = .ok b) :
    (choice.run blocks.recorded).run.run noted = (blocks.run b, noted ++ [b]) := by
  rw [← blocks.run_recorded, run, h]
  rfl

theorem Choice.run_recorded_of_error {choice : Choice} {fault : Fault}
    (h : choice.branch = .error fault) :
    (choice.run blocks.recorded).run.run noted = (.error fault, noted) := by
  rw [run, h]
  rfl

theorem Change.run_recorded (change : Change) : (change.run blocks.recorded).run.run noted =
    ((blocks.primary .undefined).map change.text, noted ++ [.primary .undefined]) := by
  have hrun := blocks.run_recorded (.primary .undefined) noted
  rw [run_eq, ExceptT.run_map, StateT.run_map]
  exact congrArg (Functor.map (f := Id) _) hrun

end

/-! ### Values that are there -/

/-- Neither undefined nor none, false, zero or the empty text. -/
def Counts (v : Value) : Prop :=
  v ≠ .undefined ∧ v ≠ .none ∧ v ≠ .bool false ∧ v ≠ .integer 0 ∧ v ≠ .string "" ∧
    ∀ x, v = .float x → (x == 0) = false

theorem isPresent_iff {v : Value} : isPresent v = true ↔ Counts v := by
  cases v <;> simp [isPresent, Counts, Value.kind, Value.isTrue, bne]

/-! ### The extended context -/

/-- A context with one of its values under a further name, which nothing else has in it. -/
def extended (entries : List (Value × Value)) (newName : String) (value : Value) : Value :=
  .mapOf (entriesBut newName entries ++ [(.string newName, value)])

theorem entriesBut_eq_filter {entries : List (Value × Value)} (h : Value.IsMap entries)
    (name : String) :
    entriesBut name entries = entries.filter fun e => e.1.asText? ≠ some name := by
  refine (List.map_congr_left fun e he => ?_).trans (List.map_id' _)
  rw [h.found e (List.mem_of_mem_filter he)]
  rfl

/-- All other entries of the context stay, in their order, and the further name comes last. -/
theorem extended_eq {entries : List (Value × Value)} (h : Value.IsMap entries) (newName : String)
    (value : Value) : extended entries newName value =
      .map ((entries.filter fun e => e.1.asText? ≠ some newName) ++
        [(.string newName, value)]) := by
  rw [extended, entriesBut_eq_filter h]
  refine Value.mapOf_eq_self (List.pairwise_append.mpr
    ⟨h.apart.filter _, List.pairwise_singleton _ _, fun e he f hf => ?_⟩)
  obtain rfl := List.mem_singleton.mp hf
  rw [Bool.eq_false_iff, ne_eq, Value.keyMatches_string_iff]
  intro hkey
  have hother := (List.mem_filter.mp he).2
  rw [hkey] at hother
  simp [Value.asText?] at hother

example (x y : Value) : extended [(.string "b", x), (.string "a", y)] "b" y =
    .map [(.string "a", y), (.string "b", y)] :=
  extended_eq (Value.isMap_of_texts (by simp) (by simp)) "b" y

theorem property_of_none {context : Value} {name : String}
    (h : present? context (.string name) = none) (newName : String) :
    property context name newName = .alternate context := by
  unfold property
  rw [h]

theorem property_of_some {entries : List (Value × Value)} {name : String} {value : Value}
    (h : present? (.map entries) (.string name) = some value) (newName : String) :
    property (.map entries) name newName = .primary (extended entries newName value) := by
  unfold property
  rw [h]
  rfl

/-! ### Choosing -/

namespace Choice

/-- A helper chooses the primary version of its block for a context. -/
inductive Selects : Choice → Value → Prop where
  | arrayContains {items : List Value} {item value this : Value} (h : item ∈ items)
    (heq : Value.eq item value = true) : Selects (.arrayContains (.list items) value this) this
  | compare {l r this : Value} {operator : String}
    (h : Comparison.evaluate l operator r = .ok true) : Selects (.compare l operator r this) this
  | property {entries : List (Value × Value)} {name newName : String} {value : Value}
    (h : Value.FirstUnder name entries value) (hvalue : value ≠ .undefined ∧ value ≠ .none) :
    Selects (.property (.map entries) name newName) (extended entries newName value)
  | withContext {value : Value} (h : Counts value) : Selects (.withContext value) value
  | withDefinition {carrier definitions this reference value : Value}
    (h : Carries carrier reference) (hitem : definitions.item? reference = some value)
    (hvalue : value.isTrue = true) : Selects (.withDefinition carrier definitions this) value

/-- The context for the alternate version. -/
def fallback : Choice → Value
  | .arrayContains _ _ this | .compare _ _ _ this | .withDefinition _ _ this => this
  | .property context _ _ => context
  | .withContext _ => .map []

/-- An operator that is given is known. -/
def Valid : Choice → Prop
  | .compare _ operator _ _ => operator ∈ Comparison.operators
  | _ => True

theorem branch_of_selects {choice : Choice} {context : Value} (h : choice.Selects context) :
    choice.branch = .ok (.primary context) := by
  cases h with
  | @arrayContains items item value _ hmem heq =>
    have hany : (items.any fun item => Value.eq item value) = true :=
      List.any_eq_true.mpr ⟨item, hmem, heq⟩
    rw [branch, Helper.arrayContains, hany]
    rfl
  | compare h =>
    rw [branch, Helper.compare, h]
    rfl
  | property h hvalue =>
    rw [branch, property_of_some (present?_string_eq_some_iff.mpr ⟨⟨_, rfl, h⟩, hvalue⟩)]
  | withContext h => rw [branch, Helper.withContext, if_pos (isPresent_iff.mpr h)]
  | withDefinition h hitem hvalue =>
    rw [branch, Helper.withDefinition,
      definition?_eq_some_iff_carries.mpr ⟨_, h, hitem, hvalue⟩]

theorem branch_of_not_selects {choice : Choice} (hvalid : choice.Valid)
    (h : ¬∃ context, choice.Selects context) :
    choice.branch = .ok (.alternate choice.fallback) := by
  cases choice with
  | arrayContains array value this =>
    cases array with
    | list items =>
      have hany : (items.any fun item => Value.eq item value) = false := by
        rw [Bool.eq_false_iff, ne_eq, List.any_eq_true]
        rintro ⟨item, hmem, heq⟩
        exact h ⟨_, .arrayContains hmem heq⟩
      rw [branch, Helper.arrayContains, hany]
      rfl
    | _ => rfl
  | compare l operator r this =>
    obtain ⟨b, hb⟩ := Comparison.exists_evaluate hvalid l r
    cases b with
    | true => exact absurd ⟨_, .compare hb⟩ h
    | false =>
      rw [branch, Helper.compare, hb]
      rfl
  | property context name newName =>
    have hnone : present? context (.string name) = none := by
      rw [Option.eq_none_iff_forall_ne_some]
      intro value hvalue
      obtain ⟨⟨entries, rfl, hfirst⟩, hthere⟩ := present?_string_eq_some_iff.mp hvalue
      exact h ⟨_, .property hfirst hthere⟩
    rw [branch, property_of_none hnone]
    rfl
  | withContext value =>
    have habsent : ¬isPresent value = true := fun hvalue =>
      h ⟨_, .withContext (isPresent_iff.mp hvalue)⟩
    rw [branch, Helper.withContext, if_neg habsent]
    rfl
  | withDefinition carrier definitions this =>
    have hnone : definition? carrier definitions = none := by
      rw [Option.eq_none_iff_forall_ne_some]
      intro value hvalue
      obtain ⟨reference, hcarries, hitem, htrue⟩ := definition?_eq_some_iff_carries.mp hvalue
      exact h ⟨_, .withDefinition hcarries hitem htrue⟩
    rw [branch, Helper.withDefinition, hnone]
    rfl

/-! ### Steps that could fail -/

/-- An item of a container, asked for in a way that fails where there are no items. -/
def presentItem? (container key : Value) : Option Value :=
  (container.item key).toOption.filter fun v => !v.isAbsent

/-- The entries of a map but those under a name, its keys being iterated and asked for one by one.
-/
def othersBut (newName : String) (context : Value) : Except Fault (List (Value × Value)) := do
  let keys ← context.iterate
  (keys.filter fun key => key.asText? ≠ some newName).mapM fun key => do
    return (key, ← context.item key)

/-- Chooses by steps that could fail: containers are iterated, and asked for their items. -/
def attempt : Choice → Except Fault Branch
  | .arrayContains array value this => do
    if array.kind = .list then
      return .of ((← array.iterate).any fun item => Value.eq item value) this
    else return .alternate this
  | .property context name newName =>
    match presentItem? context (.string name) with
    | none => .ok (.alternate context)
    | some value => do
      let entries ← if context.kind = .map then othersBut newName context else .ok []
      return .primary (.mapOf (entries ++ [(.string newName, value)]))
  | choice => choice.branch

theorem presentItem?_eq (container key : Value) :
    presentItem? container key = present? container key := by
  unfold presentItem? present?
  cases container <;> try rfl
  all_goals
    simp only [Value.item, Except.toOption]
    generalize Value.item? _ key = item
    cases item <;> rfl

theorem othersBut_map (newName : String) (entries : List (Value × Value)) :
    othersBut newName (.map entries) = .ok (entriesBut newName entries) := by
  have hkeys : ∀ keys : List Value,
      (keys.mapM fun key => do return (key, ← (Value.map entries).item key) :
        Except Fault (List (Value × Value))) =
      .ok (keys.map fun key => (key, (Value.valueAt? key entries).getD .undefined)) := by
    intro keys
    induction keys with
    | nil => rfl
    | cons key keys ih => rw [List.mapM_cons, ih]; rfl
  show ((entries.map Prod.fst).filter _).mapM _ = _
  rw [hkeys, entriesBut, List.filter_map, List.map_map]
  rfl

/-- None of the steps fails. -/
theorem attempt_eq_branch (choice : Choice) : choice.attempt = choice.branch := by
  cases choice with
  | arrayContains array value this => cases array <;> rfl
  | property context name newName =>
    rw [attempt, branch, presentItem?_eq]
    cases hvalue : present? context (.string name) with
    | none => rw [property_of_none hvalue]
    | some value =>
      obtain ⟨⟨entries, rfl, -⟩, -⟩ := present?_string_eq_some_iff.mp hvalue
      rw [property_of_some hvalue]
      simp only [Value.kind, if_true, othersBut_map]
      rfl
  | _ => rfl

end Choice

/-- A branching helper runs one version of its block, once, and gives what that version gives: the
primary one for the context that it selects, or the alternate one. It fails of itself for an unknown
operator only, and then runs nothing, and not in the steps by which it looks into containers. The
other helpers run the primary version once, for nothing, and change its text. -/
theorem one_version_runs (blocks : Blocks (Except Fault)) (noted : List Branch) :
    (∀ choice context, Choice.Selects choice context →
      (choice.run blocks.recorded).run.run noted =
        (blocks.primary context, noted ++ [.primary context])) ∧
    (∀ choice : Choice, choice.Valid → (¬∃ context, choice.Selects context) →
      (choice.run blocks.recorded).run.run noted =
        (blocks.alternate choice.fallback, noted ++ [.alternate choice.fallback])) ∧
    (∀ l operator r this, operator ∉ Comparison.operators →
      ((Choice.compare l operator r this).run blocks.recorded).run.run noted =
        (.error ⟨.invalidOperation, some ("unknown compare operator: " ++ operator)⟩, noted)) ∧
    (∀ choice : Choice, choice.attempt = choice.branch) ∧
    (∀ entries newName value, Value.IsMap entries → extended entries newName value =
      .map ((entries.filter fun e => e.1.asText? ≠ some newName) ++ [(.string newName, value)])) ∧
    ∀ change : Change, (change.run blocks.recorded).run.run noted =
      ((blocks.primary .undefined).map change.text, noted ++ [.primary .undefined]) := by
  refine ⟨fun choice context h => ?_, fun choice hvalid h => ?_, fun l operator r this h => ?_,
    Choice.attempt_eq_branch, fun entries newName value h => extended_eq h newName value,
    Change.run_recorded blocks noted⟩
  · exact Choice.run_recorded_of_ok blocks noted (Choice.branch_of_selects h)
  · exact Choice.run_recorded_of_ok blocks noted (Choice.branch_of_not_selects hvalid h)
  · refine Choice.run_recorded_of_error blocks noted ?_
    rw [Choice.branch, compare, Comparison.evaluate_of_unknown h]
    rfl

end Helper

end ContractPress
