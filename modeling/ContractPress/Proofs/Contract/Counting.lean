import ContractPress.Proofs.Contract.Grouping
import Mathlib.Algebra.BigOperators.Group.List.Basic
import Mathlib.Algebra.GroupWithZero.Nat

/-!
The number of operations under the listed verbs.

An operation is counted once for each time that the list has its verb (`operationCount_eq_sum`),
while it is a member of one group and once (`length_members`). So the count is that of the
operations, and of the members of all groups, exactly if no verb that a path holds is listed twice.
-/

namespace ContractPress

/-! ### Counting -/

theorem Entries.countP_isSome_get?_cons {κ α : Type} [DecidableEq κ] {e : κ × α}
    {rest : Entries κ α} (hnew : e.1 ∉ rest.keys) (ks : List κ) :
    ks.countP (fun k => (Entries.get? k (e :: rest)).isSome) =
      ks.count e.1 + ks.countP (fun k => (rest.get? k).isSome) := by
  have hnone : rest.get? e.1 = none := get?_eq_none_iff.mpr hnew
  induction ks with
  | nil => rfl
  | cons k ks ih =>
    rw [List.countP_cons, List.countP_cons, List.count_cons, ih]
    by_cases hk : e.1 = k
    · subst hk
      simp [get?, hnone]
      omega
    · simp [get?, hk, Ne.symm hk]
      omega

/-- The keys of a list that a map has, counted key by key of the map. -/
theorem Entries.countP_isSome_get? {κ α : Type} [DecidableEq κ] {es : Entries κ α}
    (h : es.keys.Nodup) (ks : List κ) :
    ks.countP (fun k => (es.get? k).isSome) = (es.map fun e => ks.count e.1).sum := by
  induction es with
  | nil => simp [get?]
  | cons e rest ih =>
    obtain ⟨hnew, hrest⟩ := List.nodup_cons.mp h
    rw [countP_isSome_get?_cons hnew, ih hrest, List.map_cons, List.sum_cons]

/-- What is left out of a sum adds nothing to it. -/
theorem sum_map_filter {α : Type} {p : α → Bool} {f : α → Nat} {items : List α}
    (h : ∀ a ∈ items, p a = false → f a = 0) :
    ((items.filter p).map f).sum = (items.map f).sum := by
  induction items with
  | nil => rfl
  | cons a items ih =>
    rw [List.forall_mem_cons] at h
    rw [List.filter_cons, List.map_cons, List.sum_cons, ← ih h.2]
    cases hp : p a with
    | true => simp
    | false => simp [h.1 hp]

/-- A sum of positive numbers is that of their count exactly if they are all one. -/
theorem sum_map_eq_length_iff {α : Type} {f : α → Nat} {items : List α}
    (h : ∀ a ∈ items, 1 ≤ f a) : (items.map f).sum = items.length ↔ ∀ a ∈ items, f a = 1 := by
  have hle : ∀ items : List α, (∀ a ∈ items, 1 ≤ f a) → items.length ≤ (items.map f).sum := by
    intro items h
    simpa using List.length_le_sum_of_one_le (items.map f) (by simpa using h)
  induction items with
  | nil => simp
  | cons a items ih =>
    rw [List.forall_mem_cons] at h
    have hrest := hle items h.2
    have ha := h.1
    rw [List.map_cons, List.sum_cons, List.length_cons, List.forall_mem_cons]
    constructor
    · exact fun hsum => ⟨by omega, (ih h.2).mp (by omega)⟩
    · rintro ⟨hone, hones⟩
      have := (ih h.2).mpr hones
      omega

namespace Contract

variable (c : Contract) (verbs : List String)

/-- Every included operation is counted as often as the list has its verb. -/
theorem operationCount_eq_sum :
    c.operationCount verbs = ((c.included verbs).map fun e => verbs.count e.2.verb).sum := by
  have hitem : ∀ item : PathItem, verbs.countP (fun v => (item.operation? v).isSome) =
      ((item.fields.entries.filter fun f => f.1 ∈ verbs).map fun f => verbs.count f.1).sum := by
    intro item
    rw [sum_map_filter fun f _ hf => List.count_eq_zero.mpr (by simpa using hf)]
    exact Entries.countP_isSome_get? item.fields.nodup verbs
  have hsum : ∀ (items : List PathItem) (count : Nat),
      items.foldl (fun count item => count + verbs.countP fun v => (item.operation? v).isSome)
        count = count + (items.map fun item =>
          verbs.countP fun v => (item.operation? v).isSome).sum := by
    intro items
    induction items with
    | nil => exact fun _ => rfl
    | cons item items ih =>
      intro count
      rw [List.foldl_cons, ih, List.map_cons, List.sum_cons, Nat.add_assoc]
  rw [operationCount, hsum, Nat.zero_add, included, pathItems, OrderedMap.values, Entries.values]
  induction c.paths.entries with
  | nil => rfl
  | cons e rest ih =>
    rw [List.map_cons, List.map_cons, List.sum_cons, ih, List.flatMap_cons, List.map_append,
      List.sum_append, hitem, List.map_map]
    rfl

theorem verb_mem {e : String × Operation} (he : e ∈ c.included verbs) : e.2.verb ∈ verbs := by
  obtain ⟨item, -, he⟩ := List.mem_flatMap.mp he
  obtain ⟨f, hf, rfl⟩ := List.mem_map.mp he
  simpa using (List.mem_filter.mp hf).2

theorem operationCount_eq_length_iff :
    c.operationCount verbs = (c.included verbs).length ↔
      ∀ e ∈ c.included verbs, verbs.count e.2.verb = 1 := by
  rw [operationCount_eq_sum]
  exact sum_map_eq_length_iff fun e he => List.count_pos_iff.mpr (c.verb_mem verbs he)

theorem included_eraseDups : c.included verbs.eraseDups = c.included verbs := by
  simp only [included, List.mem_eraseDups]

end Contract

/-- Each included operation is a member of one group, and once. -/
theorem RouteGroups.length_members {c : Contract} {field : String} {verbs : List String}
    {groups : RouteGroups} (h : ofContract c field verbs = .ok groups) :
    (groups.values.map List.length).sum = (c.included verbs).length := by
  obtain ⟨assigned, hassigned, hgroups⟩ := bind_eq_ok.mp h
  obtain rfl := pure_eq_ok.mp hgroups
  have hvalues : (collect assigned).values =
      ((buckets Prod.fst assigned).map Prod.snd).map (·.map Prod.snd) := by
    rw [OrderedMap.values, entries_collect, Entries.values, List.map_map, List.map_map]
    rfl
  calc ((collect assigned).values.map List.length).sum
      = (((buckets Prod.fst assigned).map Prod.snd).flatten).length := by
        rw [hvalues, List.length_flatten, List.map_map]
        simp [Function.comp_def]
    _ = assigned.length := (flatten_buckets_perm Prod.fst assigned).length_eq
    _ = (c.operations verbs).length := (mapM_eq_ok.mp hassigned).length_eq.symm
    _ = (c.included verbs).length := (c.operations_perm verbs).length_eq

/-- The operations of a contract under the listed verbs are counted once for each time that the
list has their verb. So their number comes out exactly if no verb that a path holds is listed twice,
and in any case if repetitions are left out of the list; it is the number of members of all groups
wherever grouping succeeds. -/
theorem operations_counted (c : Contract) (verbs : List String) :
    c.operationCount verbs = ((c.included verbs).map fun e => verbs.count e.2.verb).sum ∧
    (c.operationCount verbs = (c.included verbs).length ↔
      ∀ e ∈ c.included verbs, verbs.count e.2.verb = 1) ∧
    c.operationCount verbs.eraseDups = (c.included verbs).length ∧
    ∀ field groups, RouteGroups.ofContract c field verbs = .ok groups →
      (groups.values.map List.length).sum = (c.included verbs).length := by
  refine ⟨c.operationCount_eq_sum verbs, c.operationCount_eq_length_iff verbs, ?_,
    fun field groups h => RouteGroups.length_members h⟩
  rw [← c.included_eraseDups, Contract.operationCount_eq_length_iff]
  exact fun e he => List.count_eq_one_of_mem (nodup_eraseDups verbs) (c.verb_mem _ he)

/-- A verb that is listed twice counts twice, though its operation is one member of one group. -/
theorem operation_counted_twice :
    let c : Contract := ⟨.null, .ofList [("/pets", ⟨"/pets",
      .ofList [("get", .object [("x-group", .string "pets")])]⟩)], .empty⟩
    let verbs := ["get", "get"]
    c.operationCount verbs = 2 ∧ (c.included verbs).length = 1 ∧
      ∃ groups, RouteGroups.ofContract c "x-group" verbs = .ok groups ∧
        (groups.values.map List.length).sum = 1 := by
  intro c verbs
  exact ⟨by decide, by decide, _, rfl, by decide⟩

end ContractPress
