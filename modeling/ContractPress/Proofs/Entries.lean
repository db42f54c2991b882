import ContractPress.OrderedMap
import ContractPress.Proofs.Buckets
import Mathlib.Data.List.Basic
import Mathlib.Data.List.Induction
import Mathlib.Data.List.Nodup

/-!
Looking up and inserting in maps whose keys are distinct.

`insert_map` and `ofList_eq_self` say what insertion does to a map that is given key by key: it
keeps the order of the keys. Keys may also be given again, and then the last value of each is found
(`get?_ofList`). Pairs may be put together to a map before they are inserted (`insertAll_ofList`).
-/

namespace ContractPress.Entries

variable {κ α : Type}

/-- Maps with the same keys are the same if each key has one value only. -/
theorem eq_of_keys_eq {P : κ → α → Prop} (hP : ∀ {k v v'}, P k v → P k v' → v = v')
    {es es' : Entries κ α} (hkeys : es.keys = es'.keys) (h : ∀ e ∈ es, P e.1 e.2)
    (h' : ∀ e ∈ es', P e.1 e.2) : es = es' := by
  induction es generalizing es' with
  | nil => exact (List.map_eq_nil_iff.mp hkeys.symm).symm
  | cons e rest ih =>
    cases es' with
    | nil => exact absurd hkeys (List.cons_ne_nil _ _)
    | cons e' rest' =>
      obtain ⟨hkey, hkeys⟩ := List.cons.inj hkeys
      rw [List.forall_mem_cons] at h h'
      have hvalue : e.2 = e'.2 := hP h.1 (hkey ▸ h'.1)
      rw [Prod.ext hkey hvalue, ih hkeys h.2 h'.2]

variable [DecidableEq κ]

theorem get?_eq_some_iff {es : Entries κ α} (h : es.keys.Nodup) {k : κ} {v : α} :
    es.get? k = some v ↔ (k, v) ∈ es := by
  induction es with
  | nil => simp [get?]
  | cons e rest ih =>
    obtain ⟨j, w⟩ := e
    simp only [keys, List.map_cons, List.nodup_cons] at h
    by_cases hj : j = k
    · subst hj
      have hmem : ¬(j, v) ∈ rest := fun hm => h.1 (List.mem_map_of_mem hm)
      simp [get?, hmem, eq_comm]
    · rw [get?, if_neg hj, ih h.2, List.mem_cons, Prod.mk.injEq]
      simp [Ne.symm hj]

theorem get?_eq_none_iff {es : Entries κ α} {k : κ} : es.get? k = none ↔ k ∉ es.keys := by
  induction es with
  | nil => simp [get?, keys]
  | cons e rest ih =>
    obtain ⟨j, w⟩ := e
    by_cases hj : j = k
    · simp [get?, keys, hj]
    · rw [get?, if_neg hj, ih]
      simp [keys, Ne.symm hj]

theorem get?_map {ks : List κ} (f : κ → α) (k : κ) :
    get? k (ks.map fun j => (j, f j)) = if k ∈ ks then some (f k) else none := by
  induction ks with
  | nil => rfl
  | cons j ks ih =>
    by_cases hj : j = k
    · simp [get?, hj]
    · rw [List.map_cons, get?, if_neg hj, ih]
      simp [Ne.symm hj]

theorem get?_mapValues {β : Type} (f : α → β) (k : κ) (es : Entries κ α) :
    get? k (es.mapValues f) = (get? k es).map f := by
  induction es with
  | nil => rfl
  | cons e rest ih =>
    rw [mapValues, List.map_cons, get?, get?]
    split
    · rfl
    · exact ih

theorem get?_erase (k j : κ) (es : Entries κ α) :
    (es.erase k).get? j = if j = k then none else es.get? j := by
  induction es with
  | nil => simp [erase, get?]
  | cons e rest ih =>
    have hcons : erase k (e :: rest) = if e.1 = k then erase k rest else e :: erase k rest := by
      by_cases he : e.1 = k <;> simp [erase, he]
    rw [hcons]
    by_cases he : e.1 = k
    · subst he
      rw [if_pos rfl, ih]
      by_cases hj : j = e.1
      · rw [if_pos hj, if_pos hj]
      · rw [if_neg hj, if_neg hj, get?, if_neg (Ne.symm hj)]
    · rw [if_neg he, get?, get?, ih]
      by_cases hj : e.1 = j
      · rw [if_pos hj, if_pos hj, if_neg (hj ▸ he)]
      · rw [if_neg hj, if_neg hj]

theorem keys_erase (k : κ) (es : Entries κ α) : (es.erase k).keys = es.keys.filter (· ≠ k) := by
  rw [keys, keys, List.filter_map]
  rfl

theorem insert_of_not_mem {es : Entries κ α} {k : κ} (h : k ∉ es.keys) (v : α) :
    es.insert k v = es ++ [(k, v)] := by
  induction es with
  | nil => rfl
  | cons e rest ih =>
    obtain ⟨j, w⟩ := e
    simp only [keys, List.map_cons, List.mem_cons, not_or] at h
    rw [insert, if_neg (Ne.symm h.1), ih h.2, List.cons_append]

/-- Inserting into a map that is given key by key. -/
theorem insert_map {ks : List κ} (hks : ks.Nodup) (f : κ → α) (k : κ) (v : α) :
    insert k v (ks.map fun j => (j, f j)) =
      (if k ∈ ks then ks else ks ++ [k]).map fun j => (j, if j = k then v else f j) := by
  induction ks with
  | nil => simp [insert]
  | cons j ks ih =>
    rw [List.nodup_cons] at hks
    by_cases hj : j = k
    · subst hj
      have hrest : ∀ i ∈ ks, i ≠ j := fun i hi e => hks.1 (e ▸ hi)
      have hmap : (ks.map fun i => (i, f i)) = ks.map fun i => (i, if i = j then v else f i) :=
        List.map_congr_left fun i hi => by rw [if_neg (hrest i hi)]
      simp [insert, hmap]
    · rw [List.map_cons, insert, if_neg hj, ih hks.2]
      by_cases hk : k ∈ ks
      · simp [hk, hj]
      · simp [hk, hj, Ne.symm hj]

theorem insertAll_cons (es : Entries κ α) (e : κ × α) (pairs : List (κ × α)) :
    es.insertAll (e :: pairs) = (es.insert e.1 e.2).insertAll pairs :=
  List.foldl_cons ..

theorem insertAll_append (es : Entries κ α) (pairs more : List (κ × α)) :
    es.insertAll (pairs ++ more) = (es.insertAll pairs).insertAll more :=
  List.foldl_append

theorem ofList_append (pairs more : List (κ × α)) :
    ofList (pairs ++ more) = (ofList pairs).insertAll more :=
  insertAll_append [] pairs more

theorem ofList_append_singleton (pairs : List (κ × α)) (e : κ × α) :
    ofList (pairs ++ [e]) = (ofList pairs).insert e.1 e.2 :=
  ofList_append pairs [e]

theorem insertAll_of_nodup {es : Entries κ α} {pairs : List (κ × α)}
    (h : (es.keys ++ pairs.map Prod.fst).Nodup) : es.insertAll pairs = es ++ pairs := by
  induction pairs generalizing es with
  | nil => simp [insertAll]
  | cons e pairs ih =>
    have hnew : e.1 ∉ es.keys := fun hm =>
      List.disjoint_of_nodup_append h hm (List.mem_map_of_mem List.mem_cons_self)
    rw [insertAll_cons, insert_of_not_mem hnew, ih]
    · simp
    · simpa [keys] using h

/-- Pairs with distinct keys are the map that they describe. -/
theorem ofList_eq_self {pairs : List (κ × α)} (h : (pairs.map Prod.fst).Nodup) :
    ofList pairs = pairs := by
  rw [ofList, insertAll_of_nodup (by simpa [keys] using h), List.nil_append]

theorem keys_insert (k : κ) (v : α) (es : Entries κ α) :
    (es.insert k v).keys = if k ∈ es.keys then es.keys else es.keys ++ [k] := by
  induction es with
  | nil => simp [insert, keys]
  | cons e rest ih =>
    obtain ⟨j, w⟩ := e
    simp only [keys] at ih
    by_cases hj : j = k
    · simp [insert, keys, hj]
    · by_cases hk : k ∈ rest.map Prod.fst <;> simp [insert, keys, hj, ih, hk, Ne.symm hj]

/-- Keys stand in the order in which they are first given a value. -/
theorem keys_ofList (pairs : List (κ × α)) :
    (ofList pairs).keys = (pairs.map Prod.fst).eraseDups := by
  induction pairs using List.reverseRecOn with
  | nil => rfl
  | append_singleton pairs e ih =>
    rw [ofList_append_singleton, keys_insert, ih, List.map_append, List.map_singleton,
      eraseDups_append_singleton]
    simp only [List.mem_eraseDups]

theorem nodup_keys_ofList (pairs : List (κ × α)) : (ofList pairs).keys.Nodup := by
  have hempty : (keys ([] : Entries κ α)).Nodup := List.nodup_nil
  exact nodup_keys_insertAll hempty pairs

theorem get?_append (k : κ) (es es' : Entries κ α) :
    get? k (es ++ es') = (get? k es).or (get? k es') := by
  induction es with
  | nil => rfl
  | cons e rest ih =>
    by_cases h : e.1 = k
    · simp [get?, h]
    · simp [get?, h, ih]

/-- What is found under a key is the value of its first entry. -/
theorem get?_eq_some_iff_append {es : Entries κ α} {k : κ} {v : α} :
    es.get? k = some v ↔ ∃ before after, es = before ++ (k, v) :: after ∧
      k ∉ before.map Prod.fst := by
  constructor
  · intro h
    induction es with
    | nil => cases h
    | cons e rest ih =>
      obtain ⟨j, w⟩ := e
      by_cases hj : j = k
      · rw [get?, if_pos hj, Option.some.injEq] at h
        subst hj h
        exact ⟨[], rest, rfl, List.not_mem_nil⟩
      · rw [get?, if_neg hj] at h
        obtain ⟨before, after, rfl, hbefore⟩ := ih h
        refine ⟨(j, w) :: before, after, rfl, ?_⟩
        rw [List.map_cons, List.mem_cons, not_or]
        exact ⟨Ne.symm hj, hbefore⟩
  · rintro ⟨before, after, rfl, hbefore⟩
    have hnone : get? k before = none := get?_eq_none_iff.mpr hbefore
    rw [get?_append, hnone, Option.none_or, get?, if_pos rfl]

theorem get?_insertAll (k : κ) (es : Entries κ α) (pairs : List (κ × α)) :
    get? k (es.insertAll pairs) = (get? k pairs.reverse).or (get? k es) := by
  induction pairs generalizing es with
  | nil => rfl
  | cons e pairs ih =>
    rw [insertAll_cons, ih, List.reverse_cons, get?_append, get?_insert, Option.or_assoc]
    congr 1
    by_cases h : e.1 = k <;> simp [get?, h]

/-- Of the values that a key is given the last one counts. -/
theorem get?_ofList (k : κ) (pairs : List (κ × α)) :
    get? k (ofList pairs) = get? k pairs.reverse := by
  rw [ofList, get?_insertAll, get?, Option.or_none]

theorem mem_of_get?_eq_some {es : Entries κ α} {k : κ} {v : α} (h : es.get? k = some v) :
    (k, v) ∈ es := by
  obtain ⟨before, after, rfl, -⟩ := get?_eq_some_iff_append.mp h
  exact List.mem_append_right before List.mem_cons_self

theorem mem_of_mem_ofList {pairs : List (κ × α)} {e : κ × α} (h : e ∈ ofList pairs) :
    e ∈ pairs := by
  have hget := (get?_eq_some_iff (nodup_keys_ofList pairs)).mpr h
  rw [get?_ofList] at hget
  exact List.mem_reverse.mp (mem_of_get?_eq_some hget)

/-- Giving a key the value that it has changes nothing. -/
theorem insert_eq_self {es : Entries κ α} {k : κ} {v : α} (h : es.get? k = some v) :
    es.insert k v = es := by
  induction es with
  | nil => cases h
  | cons e rest ih =>
    obtain ⟨j, w⟩ := e
    by_cases hj : j = k
    · rw [get?, if_pos hj, Option.some.injEq] at h
      rw [insert, if_pos hj, h]
    · rw [get?, if_neg hj] at h
      rw [insert, if_neg hj, ih h]

/-- Of two values that a key is given the second one stays. -/
theorem insert_insert (k : κ) (v w : α) (es : Entries κ α) :
    (es.insert k v).insert k w = es.insert k w := by
  induction es with
  | nil => simp [insert]
  | cons e rest ih =>
    obtain ⟨j, u⟩ := e
    by_cases hj : j = k
    · simp [insert, hj]
    · simp [insert, hj, ih]

/-- A key that is there may be given its value before another key or after it. -/
theorem insert_comm {es : Entries κ α} {k j : κ} (hk : k ∈ es.keys) (hne : k ≠ j) (v w : α) :
    (es.insert k v).insert j w = (es.insert j w).insert k v := by
  induction es with
  | nil => cases hk
  | cons e rest ih =>
    obtain ⟨i, u⟩ := e
    by_cases hi : i = k
    · subst hi
      simp [insert, hne]
    · have hrest : k ∈ keys rest := (List.mem_cons.mp hk).resolve_left (Ne.symm hi)
      by_cases hij : i = j
      · subst hij
        simp [insert, hi]
      · simp [insert, hi, hij, ih hrest]

/-- What is given to keys that are left out of account leaves the others as they are. -/
theorem filter_insert {p : κ → Bool} {k : κ} (hk : p k = false) (v : α) (es : Entries κ α) :
    (es.insert k v).filter (fun e => p e.1) = es.filter fun e => p e.1 := by
  induction es with
  | nil => simp [insert, hk]
  | cons e rest ih =>
    obtain ⟨j, w⟩ := e
    by_cases hj : j = k
    · subst hj
      simp [insert, hk]
    · simp only [insert, if_neg hj, List.filter_cons, ih]

theorem filter_insertAll {p : κ → Bool} {pairs : List (κ × α)}
    (hpairs : ∀ e ∈ pairs, p e.1 = false) (es : Entries κ α) :
    (es.insertAll pairs).filter (fun e => p e.1) = es.filter fun e => p e.1 := by
  induction pairs generalizing es with
  | nil => rfl
  | cons e pairs ih =>
    rw [List.forall_mem_cons] at hpairs
    rw [insertAll_cons, ih hpairs.2, filter_insert hpairs.1]

/-- A value that is given to a key of the map leaves no trace if the key is given another one later.
-/
theorem insertAll_insert {es : Entries κ α} {k : κ} {pairs : List (κ × α)} (hk : k ∈ es.keys)
    (hpairs : k ∈ pairs.map Prod.fst) (v : α) :
    (es.insert k v).insertAll pairs = es.insertAll pairs := by
  induction pairs generalizing es with
  | nil => cases hpairs
  | cons e pairs ih =>
    rw [insertAll_cons, insertAll_cons]
    by_cases he : k = e.1
    · rw [he, insert_insert]
    · have hk' : k ∈ (es.insert e.1 e.2).keys := (mem_keys_insert e.1 k e.2 es).mpr (.inr hk)
      rw [insert_comm hk he, ih hk' ((List.mem_cons.mp hpairs).resolve_left he)]

theorem get?_reverse_eq_none_iff {pairs : List (κ × α)} {k : κ} :
    get? k pairs.reverse = none ↔ k ∉ pairs.map Prod.fst := by
  rw [get?_eq_none_iff, keys, List.map_reverse, List.mem_reverse]

/-- Pairs leave a map as it is if it has the last value that they give to each of their keys. -/
theorem insertAll_eq_self {es : Entries κ α} {pairs : List (κ × α)}
    (h : ∀ k ∈ pairs.map Prod.fst, es.get? k = get? k pairs.reverse) : es.insertAll pairs = es := by
  induction pairs with
  | nil => rfl
  | cons e pairs ih =>
    have hlast : ∀ k, get? k (e :: pairs).reverse = (get? k pairs.reverse).or (get? k [e]) := by
      intro k
      rw [List.reverse_cons, get?_append]
    have hrest : ∀ k ∈ pairs.map Prod.fst, es.get? k = get? k pairs.reverse := by
      intro k hk
      rw [h k (List.mem_cons_of_mem _ hk), hlast]
      cases hget : get? k pairs.reverse with
      | some w => rfl
      | none => exact absurd hk (get?_reverse_eq_none_iff.mp hget)
    rw [insertAll_cons]
    by_cases he : e.1 ∈ pairs.map Prod.fst
    · have hmem : e.1 ∈ es.keys := by
        by_contra hnot
        rw [← get?_eq_none_iff, hrest e.1 he] at hnot
        exact get?_reverse_eq_none_iff.mp hnot he
      rw [insertAll_insert hmem he, ih hrest]
    · have hvalue : es.get? e.1 = some e.2 := by
        rw [h e.1 List.mem_cons_self, hlast, get?_reverse_eq_none_iff.mpr he]
        simp [get?]
      rw [insert_eq_self hvalue, ih hrest]

/-- A key that is there may be given its value before pairs with other keys or after them. -/
theorem insert_insertAll {es : Entries κ α} {k : κ} {pairs : List (κ × α)} (hk : k ∈ es.keys)
    (hpairs : k ∉ pairs.map Prod.fst) (v : α) :
    (es.insertAll pairs).insert k v = (es.insert k v).insertAll pairs := by
  induction pairs generalizing es with
  | nil => rfl
  | cons e pairs ih =>
    rw [List.map_cons, List.mem_cons, not_or] at hpairs
    have hk' : k ∈ (es.insert e.1 e.2).keys := (mem_keys_insert e.1 k e.2 es).mpr (.inr hk)
    rw [insertAll_cons, insertAll_cons, ih hk' hpairs.2, insert_comm hk hpairs.1]

/-- What is inserted into pairs with distinct keys may as well be inserted after them. -/
theorem insertAll_insert_right {pairs : Entries κ α} (hpairs : pairs.keys.Nodup) (k : κ) (v : α)
    (es : Entries κ α) : es.insertAll (pairs.insert k v) = (es.insertAll pairs).insert k v := by
  induction pairs generalizing es with
  | nil => rfl
  | cons e pairs ih =>
    obtain ⟨j, w⟩ := e
    obtain ⟨hj, hnodup⟩ := List.nodup_cons.mp hpairs
    by_cases hjk : j = k
    · subst hjk
      have hmem : j ∈ (es.insert j w).keys := (mem_keys_insert j j w es).mpr (.inl rfl)
      rw [insert, if_pos rfl, insertAll_cons, insertAll_cons, insert_insertAll hmem hj,
        insert_insert]
    · rw [insert, if_neg hjk, insertAll_cons, insertAll_cons, ih hnodup]

/-- Pairs are inserted as the map that they describe. -/
theorem insertAll_ofList (es : Entries κ α) (pairs : List (κ × α)) :
    es.insertAll (ofList pairs) = es.insertAll pairs := by
  induction pairs using List.reverseRecOn with
  | nil => rfl
  | append_singleton pairs e ih =>
    rw [ofList_append_singleton, insertAll_insert_right (nodup_keys_ofList pairs), ih,
      insertAll_append]
    rfl

end ContractPress.Entries

namespace ContractPress.OrderedMap

variable {α : Type}

/-- Maps with the same entries are the same. -/
theorem ext_entries {m m' : OrderedMap α} (h : m.entries = m'.entries) : m = m' := by
  obtain ⟨entries, hnodup⟩ := m
  obtain ⟨entries', hnodup'⟩ := m'
  obtain rfl : entries = entries' := h
  rfl

end ContractPress.OrderedMap
