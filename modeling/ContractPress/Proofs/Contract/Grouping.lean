import ContractPress.Contract.RouteGroup
import ContractPress.Json.Printer
import ContractPress.Proofs.Buckets
import ContractPress.Proofs.Entries
import ContractPress.Proofs.Results
import Mathlib.Data.List.Induction

/-!
What grouping does to the operations of a contract.

The operations under the listed verbs are visited path by path and, within a path, verb by verb.
`IsGrouping` says what groups are made of them; `grouping_spec` says that these groups come out if
every included operation has a value to be grouped by, and what fails otherwise.
-/

namespace ContractPress

/-! ### Values that name groups -/

namespace Json

/-- A scalar that is not null. -/
def Usable : Json → Prop
  | .null | .array _ | .object _ => False
  | .bool _ | .integer _ | .float _ | .string _ => True

/-- The text of a scalar: a string itself, anything else as it is written. -/
def printed : Json → String
  | .string s => s
  | j => j.render

theorem groupName?_eq_some {j : Json} {group : String} :
    j.groupName? = some group ↔ j.Usable ∧ j.printed = group := by
  cases j with
  | bool b => cases b <;> simp [groupName?, Usable, printed, render]
  | _ => simp [groupName?, Usable, printed, render]

end Json

namespace Operation

/-- A usable value of the field in the operation's own mapping. -/
def Own (op : Operation) (field : String) (v : Json) : Prop :=
  op.body.field? field = some v ∧ v.Usable

/-- A usable value of the field in the path item. -/
def Shared (op : Operation) (field : String) (v : Json) : Prop :=
  op.path.field? field = some v ∧ v.Usable

def HasValue (op : Operation) (field : String) : Prop :=
  (∃ v, op.Own field v) ∨ ∃ v, op.Shared field v

/-- The group is named by the operation's own value, or by the path item's if it has none. -/
def BelongsTo (op : Operation) (field group : String) : Prop :=
  (∃ v, op.Own field v ∧ v.printed = group) ∨
    (¬∃ v, op.Own field v) ∧ ∃ v, op.Shared field v ∧ v.printed = group

theorem BelongsTo.hasValue {op : Operation} {field group : String} (h : op.BelongsTo field group) :
    op.HasValue field := by
  rcases h with ⟨v, hv, -⟩ | ⟨-, v, hv, -⟩
  · exact .inl ⟨v, hv⟩
  · exact .inr ⟨v, hv⟩

theorem bind_groupName?_eq_some {found : Option Json} {group : String} :
    found >>= Json.groupName? = some group ↔
      ∃ v, (found = some v ∧ v.Usable) ∧ v.printed = group := by
  simp [Option.bind_eq_some_iff, Json.groupName?_eq_some, and_assoc]

theorem bind_groupName?_eq_none {found : Option Json} :
    found >>= Json.groupName? = none ↔ ¬∃ v, found = some v ∧ v.Usable := by
  rw [Option.eq_none_iff_forall_ne_some]
  constructor
  · intro h h
    obtain ⟨v, hv⟩ := h
    exact h v.printed (bind_groupName?_eq_some.mpr ⟨v, hv, rfl⟩)
  · intro h group hg
    obtain ⟨v, hv, -⟩ := bind_groupName?_eq_some.mp hg
    exact h ⟨v, hv⟩

theorem group?_eq_or (op : Operation) (field : String) :
    op.group? field = (op.body.field? field >>= Json.groupName?).or
      (op.path.field? field >>= Json.groupName?) :=
  Option.orElse_eq_or

theorem group?_eq_some {op : Operation} {field group : String} :
    op.group? field = some group ↔ op.BelongsTo field group := by
  rw [group?_eq_or, Option.or_eq_some_iff, bind_groupName?_eq_some, bind_groupName?_eq_none,
    bind_groupName?_eq_some]
  rfl

theorem group?_eq_none {op : Operation} {field : String} :
    op.group? field = none ↔ ¬op.HasValue field := by
  rw [group?_eq_or, Option.or_eq_none_iff, bind_groupName?_eq_none, bind_groupName?_eq_none,
    ← not_or]
  rfl

end Operation

/-! ### The order in which operations are visited -/

namespace Contract

variable (c : Contract) (verbs : List String)

/-- The entries of the path items whose keys are among the verbs, as the document has them, each
with the path that it is held at. -/
def included : List (String × Operation) :=
  c.paths.entries.flatMap fun e =>
    (e.2.fields.entries.filter fun f => f.1 ∈ verbs).map fun f => (e.1, ⟨f.1, e.2, f.2⟩)

/-- In path order, and at one path in the order in which the verbs first occur in the list. -/
def Precedes (a b : String × Operation) : Prop :=
  c.paths.keys.idxOf a.1 < c.paths.keys.idxOf b.1 ∨
    a.1 = b.1 ∧ verbs.idxOf a.2.verb < verbs.idxOf b.2.verb

end Contract

theorem PathItem.mem_operations {item : PathItem} {verbs : List String} {op : Operation} :
    op ∈ item.operations verbs ↔
      op.verb ∈ verbs ∧ op.path = item ∧ item.operation? op.verb = some op.body := by
  simp only [operations, List.mem_filterMap, List.mem_eraseDups, Option.map_eq_some_iff]
  constructor
  · intro h
    obtain ⟨verb, hverb, body, hbody, rfl⟩ := h
    exact ⟨hverb, rfl, hbody⟩
  · intro h
    obtain ⟨hverb, rfl, hbody⟩ := h
    exact ⟨op.verb, hverb, op.body, hbody, rfl⟩

/-- At one path no verb is visited twice, and the verbs are visited in the order of the list. -/
theorem PathItem.pairwise_operations (item : PathItem) (verbs : List String) :
    (item.operations verbs).Pairwise fun a b => verbs.idxOf a.verb < verbs.idxOf b.verb := by
  rw [operations, List.pairwise_filterMap]
  apply (pairwise_idxOf_eraseDups verbs).imp
  intro v w hlt a ha b hb
  obtain ⟨body, -, rfl⟩ := Option.map_eq_some_iff.mp ha
  obtain ⟨body', -, rfl⟩ := Option.map_eq_some_iff.mp hb
  exact hlt

/-- The operations of a path are its entries under the listed verbs. -/
theorem PathItem.operations_perm (item : PathItem) (verbs : List String) :
    (item.operations verbs).Perm
      ((item.fields.entries.filter fun f => f.1 ∈ verbs).map fun f => ⟨f.1, item, f.2⟩) := by
  have hnodup : (item.operations verbs).Nodup :=
    (item.pairwise_operations verbs).imp fun hlt e => absurd (e ▸ hlt) (Nat.lt_irrefl _)
  have hentries : item.fields.entries.Nodup := item.fields.nodup.of_map
  refine (List.perm_ext_iff_of_nodup hnodup ?_).mpr fun op => ?_
  · refine (hentries.filter _).map fun f g e => ?_
    injection e with h1 _ h2
    exact Prod.ext h1 h2
  · rw [PathItem.mem_operations, List.mem_map]
    constructor
    · intro h
      obtain ⟨hverb, rfl, hbody⟩ := h
      have hmem := (Entries.get?_eq_some_iff op.path.fields.nodup).mp hbody
      exact ⟨(op.verb, op.body), List.mem_filter.mpr ⟨hmem, by simpa using hverb⟩, rfl⟩
    · intro h
      obtain ⟨⟨verb, body⟩, hf, rfl⟩ := h
      obtain ⟨hmem, hverb⟩ := List.mem_filter.mp hf
      exact ⟨by simpa using hverb, rfl, (Entries.get?_eq_some_iff item.fields.nodup).mpr hmem⟩

namespace Contract

variable {c : Contract} {verbs : List String}

theorem operations_perm (c : Contract) (verbs : List String) :
    (c.operations verbs).Perm (c.included verbs) := by
  unfold operations included
  refine List.Perm.flatMap_left _ fun e _ => ?_
  have := (e.2.operations_perm verbs).map fun op => (e.1, op)
  rwa [List.map_map] at this

theorem pairwise_operations (c : Contract) (verbs : List String) :
    (c.operations verbs).Pairwise (c.Precedes verbs) := by
  rw [operations, List.pairwise_flatMap]
  constructor
  · intro e _
    rw [List.pairwise_map]
    exact (e.2.pairwise_operations verbs).imp fun hlt => .inr ⟨rfl, hlt⟩
  · have hkeys := pairwise_idxOf_of_nodup c.paths.nodup
    rw [Entries.keys, List.pairwise_map] at hkeys
    refine hkeys.imp fun {e e'} hlt x hx y hy => .inl ?_
    obtain ⟨_, -, rfl⟩ := List.mem_map.mp hx
    obtain ⟨_, -, rfl⟩ := List.mem_map.mp hy
    exact hlt

end Contract

/-! ### Collecting -/

namespace RouteGroups

/-- Collecting makes a bucket of each group. -/
theorem entries_collect (assigned : List (String × Operation)) :
    (collect assigned).entries =
      (buckets Prod.fst assigned).map fun b => (b.1, b.2.map Prod.snd) := by
  have hbuckets : ∀ assigned : List (String × Operation),
      ((buckets Prod.fst assigned).map fun b => (b.1, b.2.map Prod.snd)) =
        (assigned.map Prod.fst).eraseDups.map fun k =>
          (k, (assigned.filter fun a => a.1 = k).map Prod.snd) := by
    intro assigned
    simp [buckets, Function.comp_def]
  induction assigned using List.reverseRecOn with
  | nil => rfl
  | append_singleton assigned e ih =>
    rw [hbuckets] at ih ⊢
    have hget : ((collect assigned).get? e.1).getD [] =
        (assigned.filter fun a => a.1 = e.1).map Prod.snd := by
      rw [OrderedMap.get?, ih, Entries.get?_map]
      split
      · rfl
      · rename_i hnot
        have hfilter : (assigned.filter fun a => a.1 = e.1) = [] := by
          refine List.filter_eq_nil_iff.mpr fun a ha he => ?_
          rw [List.mem_eraseDups, ← of_decide_eq_true he] at hnot
          exact hnot (List.mem_map_of_mem ha)
        rw [hfilter]
        rfl
    rw [collect, List.foldl_append, List.foldl_cons, List.foldl_nil, ← collect, add,
      OrderedMap.alter, OrderedMap.entries_insert, hget, ih,
      Entries.insert_map (nodup_eraseDups _), List.map_append, List.map_singleton,
      eraseDups_append_singleton]
    simp only [List.mem_eraseDups]
    refine List.map_congr_left fun k _ => ?_
    by_cases hk : k = e.1
    · simp [hk]
    · simp [hk, Ne.symm hk]

end RouteGroups

/-- `groups` are the groups of the included operations, each with the path that it is held at. -/
structure IsGrouping (c : Contract) (field : String) (verbs : List String)
    (groups : Entries String (List (String × Operation))) : Prop where
  /-- Each included operation is in a group once, and nothing else is. -/
  complete : groups.values.flatten.Perm (c.included verbs)
  named : ∀ g ∈ groups, ∀ e ∈ g.2, e.2.BelongsTo field g.1
  ordered : ∀ g ∈ groups, g.2.Pairwise (c.Precedes verbs)
  inhabited : ∀ g ∈ groups, g.2 ≠ []
  distinct : groups.keys.Nodup
  /-- Groups stand in the order of their first members. -/
  sorted : groups.Pairwise fun g h =>
    ∀ a ∈ g.2.head?, ∀ b ∈ h.2.head?, c.Precedes verbs a b

/-- The buckets of the visited operations are their groups if each has one. -/
theorem isGrouping_buckets {c : Contract} {field : String} {verbs : List String}
    {group : String × Operation → String}
    (h : ∀ e ∈ c.operations verbs, e.2.BelongsTo field (group e)) :
    IsGrouping c field verbs (buckets group (c.operations verbs)) where
  complete := (flatten_buckets_perm group _).trans (c.operations_perm verbs)
  named := by
    intro g hg e he
    obtain ⟨-, hmembers⟩ := (mem_buckets group _).mp hg
    rw [hmembers] at he
    obtain ⟨he, hgroup⟩ := List.mem_filter.mp he
    exact of_decide_eq_true hgroup ▸ h e he
  ordered := by
    intro g hg
    rw [((mem_buckets group _).mp hg).2]
    exact (c.pairwise_operations verbs).filter _
  inhabited := by
    intro g hg
    obtain ⟨hkey, hmembers⟩ := (mem_buckets group _).mp hg
    obtain ⟨e, he, hgroup⟩ := List.mem_map.mp hkey
    rw [hmembers]
    exact List.ne_nil_of_mem (List.mem_filter.mpr ⟨he, decide_eq_true hgroup⟩)
  distinct := nodup_keys_buckets group _
  sorted := pairwise_heads_buckets group (c.pairwise_operations verbs)

namespace RouteGroups

theorem assign_eq_ok {field : String} {e a : String × Operation} :
    Operation.assign field e = .ok a ↔
      ∃ group, e.2.group? field = some group ∧ a = (group, e.2) := by
  unfold Operation.assign
  cases e.2.group? field <;> simp [eq_comm]

theorem assign_eq_error {field : String} {e : String × Operation} {failure : Failure} :
    Operation.assign field e = .error failure ↔
      e.2.group? field = none ∧ failure = .grouping e.1 e.2.verb field := by
  unfold Operation.assign
  cases e.2.group? field <;> simp [eq_comm]

variable {c : Contract} {field : String} {verbs : List String}

theorem exists_group_of_assigned {assigned : List (String × Operation)}
    (h : (c.operations verbs).mapM (Operation.assign field) = .ok assigned) :
    ∃ group : String × Operation → String,
      (∀ e ∈ c.operations verbs, e.2.BelongsTo field (group e)) ∧
        (c.operations verbs).map (fun e => (group e, e.2)) = assigned := by
  let group : String × Operation → String := fun e => (e.2.group? field).getD ""
  have hall : List.Forall₂ (fun e a => e.2.group? field = some (group e) ∧ (group e, e.2) = a)
      (c.operations verbs) assigned := by
    refine (mapM_eq_ok.mp h).imp fun e a ha => ?_
    obtain ⟨g, hg, rfl⟩ := assign_eq_ok.mp ha
    simp [group, hg]
  obtain ⟨hgroup, hmap⟩ := (List.forall₂_and_left _ _).mp hall
  rw [← List.forall₂_map_left_iff, List.forall₂_eq_eq_eq] at hmap
  exact ⟨group, fun e he => Operation.group?_eq_some.mp (hgroup e he), hmap⟩

/-- Assigning fails at the first operation in the order of visits that has no value. -/
theorem exists_first_of_unassigned {failure : Failure}
    (h : (c.operations verbs).mapM (Operation.assign field) = .error failure) :
    ∃ e ∈ c.operations verbs, ¬e.2.HasValue field ∧
      (∀ e' ∈ c.operations verbs, ¬e'.2.HasValue field → e' = e ∨ c.Precedes verbs e e') ∧
      failure = .grouping e.1 e.2.verb field := by
  obtain ⟨before, e, after, hops, hbefore, he⟩ := mapM_eq_error.mp h
  obtain ⟨hnone, rfl⟩ := assign_eq_error.mp he
  refine ⟨e, by simp [hops], Operation.group?_eq_none.mp hnone, ?_, rfl⟩
  intro e' he' hnone'
  rw [hops] at he'
  rcases List.mem_append.mp he' with he' | he'
  · obtain ⟨a, ha⟩ := hbefore e' he'
    obtain ⟨g, hg, -⟩ := assign_eq_ok.mp ha
    rw [← Operation.group?_eq_none, hg] at hnone'
    cases hnone'
  · have hpairs := hops ▸ c.pairwise_operations verbs
    have hafter := (List.pairwise_cons.mp (List.pairwise_append.mp hpairs).2.1).1
    exact (List.mem_cons.mp he').imp_right (hafter e')

/-- If every included operation has a value to be grouped by, its groups come out. Otherwise the
first one that has none is named. -/
theorem grouping_spec (c : Contract) (field : String) (verbs : List String) :
    ((∀ e ∈ c.included verbs, e.2.HasValue field) ∧
      ∃ groups members, ofContract c field verbs = .ok groups ∧
        groups.entries = members.mapValues (·.map Prod.snd) ∧
        IsGrouping c field verbs members) ∨
    ∃ e ∈ c.included verbs, ¬e.2.HasValue field ∧
      (∀ e' ∈ c.included verbs, ¬e'.2.HasValue field → e' = e ∨ c.Precedes verbs e e') ∧
      ofContract c field verbs = .error (.grouping e.1 e.2.verb field) := by
  -- what is said of included operations is proved of the visited ones, which are the same
  have hmem : ∀ e, e ∈ c.operations verbs ↔ e ∈ c.included verbs := fun e =>
    (c.operations_perm verbs).mem_iff
  simp only [← hmem]
  cases hassign : (c.operations verbs).mapM (Operation.assign field) with
  | ok assigned =>
    left
    obtain ⟨group, hgroup, hassigned⟩ := exists_group_of_assigned hassign
    refine ⟨fun e he => ?_, collect assigned, buckets group (c.operations verbs), ?_, ?_, ?_⟩
    · exact (hgroup e he).hasValue
    · rw [ofContract, hassign]
      rfl
    · rw [entries_collect, ← hassigned, buckets_map, List.map_map]
      simp [Entries.mapValues, Function.comp_def]
    · exact isGrouping_buckets hgroup
  | error failure =>
    right
    obtain ⟨e, he, hnone, hfirst, rfl⟩ := exists_first_of_unassigned hassign
    refine ⟨e, he, hnone, hfirst, ?_⟩
    rw [ofContract, hassign]
    rfl

end RouteGroups

end ContractPress
