import ContractPress.Proofs.Entries
import ContractPress.Template.Renderer

/-!
Sets of helpers that are put together from others.

However a set is put together, its names stand in the order in which they were first introduced,
and each has the helper that was given for it last (`Binds`). A renderer with this set knows these
helpers under these names, and calls them (`Registers`).
-/

namespace ContractPress

open Template

/-- The value is given to the key, and after that no other is. -/
def Entries.LastGiven {κ α : Type} (pairs : List (κ × α)) (k : κ) (v : α) : Prop :=
  ∃ before after, pairs = before ++ (k, v) :: after ∧ k ∉ after.map Prod.fst

namespace Entries

variable {κ α : Type} [DecidableEq κ]

/-- The value that is found is the one that was given last. -/
theorem get?_ofList_eq_some_iff {pairs : List (κ × α)} {k : κ} {v : α} :
    (ofList pairs).get? k = some v ↔ LastGiven pairs k v := by
  rw [get?_ofList, get?_eq_some_iff_append]
  constructor
  · rintro ⟨before, after, h, hbefore⟩
    refine ⟨after.reverse, before.reverse, ?_, by simpa using hbefore⟩
    rw [← List.reverse_reverse pairs, h]
    simp
  · rintro ⟨before, after, rfl, hafter⟩
    exact ⟨after.reverse, before.reverse, by simp, by simpa using hafter⟩

end Entries

namespace HelperSet

/-! ### Laws -/

theorem merge_assoc (a b c : HelperSet) : (a.merge b).merge c = a.merge (b.merge c) := by
  have hb : Entries.ofList b.entries = b.entries := Entries.ofList_eq_self b.nodup
  have hmerged : b.entries.insertAll c.entries = Entries.ofList (b.entries ++ c.entries) := by
    rw [Entries.ofList_append, hb]
  apply OrderedMap.ext_entries
  calc (a.entries.insertAll b.entries).insertAll c.entries
      = a.entries.insertAll (b.entries ++ c.entries) := (Entries.insertAll_append _ _ _).symm
    _ = a.entries.insertAll (Entries.ofList (b.entries ++ c.entries)) :=
        (Entries.insertAll_ofList _ _).symm
    _ = a.entries.insertAll (b.entries.insertAll c.entries) := by rw [hmerged]

theorem empty_merge (set : HelperSet) : merge .empty set = set :=
  OrderedMap.ext_entries (Entries.ofList_eq_self set.nodup)

theorem merge_empty (set : HelperSet) : set.merge .empty = set :=
  OrderedMap.ext_entries rfl

theorem withHelper_eq_merge (set : HelperSet) (name : String) (helper : Template.Helper) :
    set.withHelper name helper = set.merge (.withHelper .empty name helper) :=
  OrderedMap.ext_entries rfl

/-! ### Expressions -/

/-- The ways in which sets of helpers are put together. -/
inductive Expression where
  | empty
  | builtin
  | withHelper (set : Expression) (name : String) (helper : Template.Helper)
  | merge (set other : Expression)

namespace Expression

def eval : Expression → HelperSet
  | empty => .empty
  | builtin => .builtin
  | withHelper set name helper => set.eval.withHelper name helper
  | merge set other => set.eval.merge other.eval

/-- The names that are introduced, from left to right, with the helpers that are given for them. -/
def introductions : Expression → List (String × Template.Helper)
  | empty => []
  | builtin => HelperSet.builtin.entries
  | withHelper set name helper => set.introductions ++ [(name, helper)]
  | merge set other => set.introductions ++ other.introductions

/-- An expression stands for the set that its introductions describe. -/
theorem entries_eval (e : Expression) : e.eval.entries = Entries.ofList e.introductions := by
  induction e with
  | empty => rfl
  | builtin => exact (Entries.ofList_eq_self HelperSet.builtin.nodup).symm
  | withHelper set name helper ih =>
    rw [introductions, Entries.ofList_append_singleton, ← ih]
    rfl
  | merge set other ih ih' =>
    rw [introductions, Entries.ofList_append, ← ih, ← Entries.insertAll_ofList, ← ih']
    rfl

end Expression

/-- The names of a set are those introduced, each once and in the order of its first introduction,
and each is bound to the helper that was given for it last. -/
structure Binds (set : HelperSet) (introductions : List (String × Template.Helper)) : Prop where
  names : set.keys = (introductions.map Prod.fst).eraseDups
  once : set.keys.Nodup
  bound : ∀ name helper, set.get? name = some helper ↔
    Entries.LastGiven introductions name helper
  listed : ∀ name helper, (name, helper) ∈ set.entries ↔
    Entries.LastGiven introductions name helper
  unbound : ∀ name, set.get? name = none ↔ name ∉ introductions.map Prod.fst

theorem binds_eval (e : Expression) : e.eval.Binds e.introductions := by
  have hbound : ∀ name helper, e.eval.get? name = some helper ↔
      Entries.LastGiven e.introductions name helper := by
    intro name helper
    rw [OrderedMap.get?, e.entries_eval]
    exact Entries.get?_ofList_eq_some_iff
  have hnames : e.eval.keys = (e.introductions.map Prod.fst).eraseDups := by
    rw [OrderedMap.keys, e.entries_eval]
    exact Entries.keys_ofList e.introductions
  refine ⟨hnames, e.eval.nodup, hbound, fun name helper => ?_, fun name => ?_⟩
  · rw [← hbound, OrderedMap.get?, Entries.get?_eq_some_iff e.eval.nodup]
  · rw [OrderedMap.get?, Entries.get?_eq_none_iff, ← OrderedMap.keys, hnames, List.mem_eraseDups]

end HelperSet

/-! ### Templates -/

/-- No variable in sight has the name. -/
structure Template.Scope.Free (s : Scope) (context : Value) (name : String) : Prop where
  frames : ∀ frame ∈ s.frames, frame.get? name = none
  context : ∀ entries, context = .map entries → Value.valueAt? (.string name) entries = none

/-- Where there is no variable of its name, a helper is found. -/
theorem Template.Scope.Free.lookup? {s : Scope} {name : String} (around : Surroundings)
    (h : s.Free around.context name) :
    s.lookup? around name = if around.helpers.contains name then some (.helper name) else none := by
  have hframes : s.frames.findSome? (·.get? name) = none :=
    List.findSome?_eq_none_iff.mpr h.frames
  rw [Scope.lookup?, hframes]
  dsimp only
  split
  · rename_i v hv
    split at hv
    · rename_i entries hcontext
      cases (h.context entries hcontext).symm.trans hv
    · cases hv
  · rfl

namespace Renderer

/-- What templates can reach when they are rendered in a context. -/
def around (r : Renderer) (context : Value) : Surroundings :=
  ⟨r.helpers, r.templates, context⟩

/-- In all templates the names introduced stand for helpers, unless a variable has the name, and no
other names do. What is called is the helper that was given last. -/
structure Registers (r : Renderer) (introductions : List (String × Template.Helper)) : Prop where
  names : r.helpers.keys = (introductions.map Prod.fst).eraseDups
  known : ∀ (s : Scope) (context : Value) (name : String), s.Free context name →
    s.lookup? (r.around context) name =
      if name ∈ introductions.map Prod.fst then some (.helper name) else none
  called : ∀ name helper, Entries.LastGiven introductions name helper →
    ∀ (context : Value) (allowance height : Nat) (args : Arguments),
      (Engine.within (r.around context) (allowance + 1)).call height (.helper name) args =
        helper ((Engine.within (r.around context) allowance).call height) args

theorem registers_of_binds {set : HelperSet} {introductions : List (String × Template.Helper)}
    (h : set.Binds introductions) : (new set).Registers introductions where
  names := h.names
  known := by
    intro s context name hfree
    have hcontains : set.contains name = true ↔ name ∈ introductions.map Prod.fst := by
      rw [OrderedMap.contains, Option.isSome_iff_ne_none, ne_eq, h.unbound, not_not]
    have hlookup := Scope.Free.lookup? ((new set).around context) hfree
    simp only [hlookup, ← hcontains]
    rfl
  called := by
    intro name helper hlast context allowance height args
    have hget : ((new set).around context).helpers.get? name = some helper :=
      (h.bound name helper).mpr hlast
    simp only [Engine.within, callValue, hget]

end Renderer

/-- Every expression gives a set with the names in the order of their first introductions, bound to
the helpers given last, and these are what its renderer registers. Merging is associative, the empty
set is neutral on both sides, and adding a helper is merging with the set of this helper. -/
theorem HelperSet.bindings_of_expressions :
    (∀ e : Expression,
      e.eval.Binds e.introductions ∧ (Renderer.new e.eval).Registers e.introductions) ∧
    (∀ a b c : HelperSet, (a.merge b).merge c = a.merge (b.merge c)) ∧
    (∀ set : HelperSet, merge .empty set = set ∧ set.merge .empty = set) ∧
    ∀ (set : HelperSet) (name : String) (helper : Template.Helper),
      set.withHelper name helper = set.merge (.withHelper .empty name helper) := by
  refine ⟨fun e => ?_, merge_assoc, fun set => ?_, withHelper_eq_merge⟩
  · exact ⟨binds_eval e, Renderer.registers_of_binds (binds_eval e)⟩
  · exact ⟨empty_merge set, merge_empty set⟩

/-- A helper with the name of a built-in one takes its place. -/
example (helper : Template.Helper) :
    let set := HelperSet.builtin.merge
      (.withHelper (.withHelper .empty "shout" helper) "compare" helper)
    set.keys = HelperSet.builtin.keys ++ ["shout"] ∧ set.get? "compare" = some helper :=
  ⟨rfl, rfl⟩

end ContractPress
