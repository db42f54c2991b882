import ContractPress.Yaml.Value

/-!
What occurs in a YAML value.

Values occur in sequences, in mappings under keys, and inside tags (`Within`); keys are not counted
among them.
-/

namespace ContractPress.Yaml.Value

/-- Induction over a value and the values in it, keys apart. -/
@[elab_as_elim]
theorem inductionOn {motive : Value → Prop} (v : Value) (null : motive .null)
    (bool : ∀ b, motive (.bool b)) (integer : ∀ n, motive (.integer n))
    (float : ∀ x, motive (.float x)) (string : ∀ s, motive (.string s))
    (sequence : ∀ items, (∀ item ∈ items, motive item) → motive (.sequence items))
    (mapping : ∀ entries, (∀ e ∈ entries, motive e.2) → motive (.mapping entries))
    (tagged : ∀ tag v, motive v → motive (.tagged tag v)) : motive v :=
  match v with
  | .null => null
  | .bool b => bool b
  | .integer n => integer n
  | .float x => float x
  | .string s => string s
  | .sequence items => sequence items fun item _ =>
    inductionOn item null bool integer float string sequence mapping tagged
  | .mapping entries => mapping entries fun e _ =>
    inductionOn e.2 null bool integer float string sequence mapping tagged
  | .tagged tag v =>
    tagged tag v (inductionOn v null bool integer float string sequence mapping tagged)
termination_by v
decreasing_by
  · decreasing_tactic
  · have hlt := List.sizeOf_lt_of_mem ‹e ∈ entries›
    obtain ⟨key, value⟩ := e
    simp only [Prod.mk.sizeOf_spec, Value.mapping.sizeOf_spec] at hlt ⊢
    omega
  · decreasing_tactic

/-- The value inside all tags. -/
def untagged : Value → Value
  | .tagged _ v => untagged v
  | v => v

/-- Neither a collection nor tagged. -/
def isScalar : Value → Bool
  | .sequence _ | .mapping _ | .tagged .. => false
  | _ => true

/-- The entries of a mapping, tagged or not. -/
def entries? (v : Value) : Option (List (Value × Value)) :=
  match v.untagged with
  | .mapping entries => some entries
  | _ => none

/-- A value is another or occurs in it, however deep. -/
inductive Within : Value → Value → Prop where
  | self (v : Value) : Within v v
  | item {w item : Value} {items : List Value} (h : item ∈ items) (hw : Within w item) :
    Within w (.sequence items)
  | entry {w : Value} {e : Value × Value} {entries : List (Value × Value)} (h : e ∈ entries)
    (hw : Within w e.2) : Within w (.mapping entries)
  | tagged {w v : Value} (tag : String) (hw : Within w v) : Within w (.tagged tag v)

theorem eq_of_within_scalar {w v : Value} (hv : v.isScalar = true) (h : Within w v) : w = v := by
  cases h with
  | self => rfl
  | item | entry | tagged => cases hv

section

variable {P : Value → Prop}

theorem forall_within_scalar {v : Value} (hv : v.isScalar = true) :
    (∀ w, Within w v → P w) ↔ P v := by
  refine ⟨fun h => h v (.self v), fun h w hw => ?_⟩
  rwa [eq_of_within_scalar hv hw]

theorem forall_within_sequence {items : List Value} :
    (∀ w, Within w (.sequence items) → P w) ↔
      P (.sequence items) ∧ ∀ item ∈ items, ∀ w, Within w item → P w := by
  constructor
  · intro h
    exact ⟨h _ (.self _), fun item hitem w hw => h w (.item hitem hw)⟩
  · intro h w hw
    cases hw with
    | self => exact h.1
    | item hitem hw => exact h.2 _ hitem w hw

theorem forall_within_mapping {entries : List (Value × Value)} :
    (∀ w, Within w (.mapping entries) → P w) ↔
      P (.mapping entries) ∧ ∀ e ∈ entries, ∀ w, Within w e.2 → P w := by
  constructor
  · intro h
    exact ⟨h _ (.self _), fun e he w hw => h w (.entry he hw)⟩
  · intro h w hw
    cases hw with
    | self => exact h.1
    | entry he hw => exact h.2 _ he w hw

theorem forall_within_tagged {tag : String} {v : Value} :
    (∀ w, Within w (.tagged tag v) → P w) ↔ P (.tagged tag v) ∧ ∀ w, Within w v → P w := by
  constructor
  · intro h
    exact ⟨h _ (.self _), fun w hw => h w (.tagged tag hw)⟩
  · intro h w hw
    cases hw with
    | self => exact h.1
    | tagged _ hw => exact h.2 w hw

end

end ContractPress.Yaml.Value
