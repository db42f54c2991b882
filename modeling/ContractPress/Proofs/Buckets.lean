import Mathlib.Data.List.Nodup
import Mathlib.Data.List.Perm.Basic

/-!
Lists sorted into buckets by a key, the buckets in the order in which their keys occur first.
-/

namespace ContractPress

variable {α κ : Type} [DecidableEq κ]

/-- Induction that goes on with those of the further items that are left in by the first. -/
theorem filter_induction (p : α → α → Bool) {motive : List α → Prop} (nil : motive [])
    (cons : ∀ a items, motive (items.filter (p a)) → motive (a :: items)) :
    ∀ items, motive items
  | [] => nil
  | a :: items => cons a items (filter_induction p nil cons (items.filter (p a)))
termination_by items => items.length
decreasing_by
  have := List.length_filter_le (p a) items
  rw [List.length_cons]
  omega

theorem ne_of_mem_eraseDups_filter {i k : κ} {ks : List κ}
    (h : k ∈ (ks.filter fun j => !j == i).eraseDups) : i ≠ k := by
  rintro rfl
  simpa using (List.mem_filter.mp (List.mem_eraseDups.mp h)).2

theorem nodup_eraseDups (ks : List κ) : ks.eraseDups.Nodup := by
  induction ks using filter_induction (fun i j : κ => !j == i) with
  | nil => simp
  | cons k ks ih =>
    rw [List.eraseDups_cons, List.nodup_cons]
    exact ⟨fun hm => ne_of_mem_eraseDups_filter hm rfl, ih⟩

theorem eraseDups_sublist (ks : List κ) : ks.eraseDups.Sublist ks := by
  induction ks using filter_induction (fun i j : κ => !j == i) with
  | nil => simp
  | cons k ks ih =>
    rw [List.eraseDups_cons]
    exact (ih.trans List.filter_sublist).cons_cons k

theorem idxOf_filter_lt {p : κ → Bool} {ks : List κ} {j k : κ} (hj : p j = true) (hk : p k = true)
    (h : (ks.filter p).idxOf j < (ks.filter p).idxOf k) : ks.idxOf j < ks.idxOf k := by
  induction ks with
  | nil => exact h
  | cons i ks ih =>
    rw [List.filter_cons] at h
    split at h
    · by_cases hik : i = k
      · simp [hik] at h
      by_cases hij : i = j
      · rw [hij, List.idxOf_cons_self, List.idxOf_cons_ne _ (hij ▸ hik)]
        exact Nat.succ_pos _
      · rw [List.idxOf_cons_ne _ hij, List.idxOf_cons_ne _ hik] at h ⊢
        exact Nat.succ_lt_succ (ih (Nat.lt_of_succ_lt_succ h))
    · rename_i hi
      have hij : i ≠ j := fun e => hi (e ▸ hj)
      have hik : i ≠ k := fun e => hi (e ▸ hk)
      rw [List.idxOf_cons_ne _ hij, List.idxOf_cons_ne _ hik]
      exact Nat.succ_lt_succ (ih h)

/-- Without repetitions keys stand in the order of their first occurrences. -/
theorem pairwise_idxOf_eraseDups (ks : List κ) :
    ks.eraseDups.Pairwise fun j k => ks.idxOf j < ks.idxOf k := by
  induction ks using filter_induction (fun i j : κ => !j == i) with
  | nil => simp
  | cons i ks ih =>
    rw [List.eraseDups_cons, List.pairwise_cons]
    constructor
    · intro k hk
      rw [List.idxOf_cons_self, List.idxOf_cons_ne _ (ne_of_mem_eraseDups_filter hk)]
      exact Nat.succ_pos _
    · refine ih.imp_of_mem fun {j k} hj hk hlt => ?_
      have hij := ne_of_mem_eraseDups_filter hj
      have hik := ne_of_mem_eraseDups_filter hk
      rw [List.idxOf_cons_ne _ hij, List.idxOf_cons_ne _ hik]
      refine Nat.succ_lt_succ (idxOf_filter_lt ?_ ?_ hlt)
      · simpa using Ne.symm hij
      · simpa using Ne.symm hik

theorem eraseDups_append_singleton (ks : List κ) (k : κ) :
    (ks ++ [k]).eraseDups = if k ∈ ks then ks.eraseDups else ks.eraseDups ++ [k] := by
  rw [List.eraseDups_append]
  by_cases hk : k ∈ ks
  · simp [List.removeAll, hk]
  · simp [List.removeAll, hk, List.eraseDups_cons]

theorem pairwise_idxOf_of_nodup {ks : List κ} (h : ks.Nodup) :
    ks.Pairwise fun j k => ks.idxOf j < ks.idxOf k := by
  induction ks with
  | nil => exact .nil
  | cons i ks ih =>
    rw [List.nodup_cons] at h
    rw [List.pairwise_cons]
    have hne : ∀ k ∈ ks, i ≠ k := fun k hk e => h.1 (e ▸ hk)
    refine ⟨fun k hk => ?_, (ih h.2).imp_of_mem fun {j k} hj hk hlt => ?_⟩
    · rw [List.idxOf_cons_self, List.idxOf_cons_ne _ (hne k hk)]
      exact Nat.succ_pos _
    · rw [List.idxOf_cons_ne _ (hne j hj), List.idxOf_cons_ne _ (hne k hk)]
      exact Nat.succ_lt_succ hlt

/-- The bucket of each key, in the order of the first occurrences. -/
def buckets (key : α → κ) (items : List α) : List (κ × List α) :=
  (items.map key).eraseDups.map fun k => (k, items.filter fun a => key a = k)

section

variable (key : α → κ) (items : List α)

theorem mem_buckets {b : κ × List α} :
    b ∈ buckets key items ↔
      b.1 ∈ items.map key ∧ b.2 = items.filter fun a => key a = b.1 := by
  obtain ⟨k, bucket⟩ := b
  simp only [buckets, List.mem_map, List.mem_eraseDups, Prod.mk.injEq]
  constructor
  · intro h
    obtain ⟨k', hk', rfl, rfl⟩ := h
    exact ⟨hk', rfl⟩
  · intro h
    obtain ⟨hk, hb⟩ := h
    exact ⟨k, hk, rfl, hb.symm⟩

theorem buckets_map {β : Type} (f : β → α) (items : List β) :
    buckets key (items.map f) = (buckets (fun b => key (f b)) items).map fun b =>
      (b.1, b.2.map f) := by
  simp [buckets, List.filter_map, Function.comp_def]

theorem nodup_keys_buckets : ((buckets key items).map Prod.fst).Nodup := by
  have : (buckets key items).map Prod.fst = (items.map key).eraseDups := by
    simp [buckets, Function.comp_def]
  exact this ▸ nodup_eraseDups _

theorem flatMap_filter_perm {ks : List κ} (hks : ks.Nodup) (hall : ∀ a ∈ items, key a ∈ ks) :
    (ks.flatMap fun k => items.filter fun a => key a = k).Perm items := by
  induction ks generalizing items with
  | nil =>
    cases items with
    | nil => exact .nil
    | cons a items => exact absurd (hall a List.mem_cons_self) List.not_mem_nil
  | cons k ks ih =>
    rw [List.nodup_cons] at hks
    -- The other buckets are those of the items whose key is not `k`.
    have hrest : (ks.flatMap fun j => items.filter fun a => key a = j) =
        ks.flatMap fun j => (items.filter fun a => !decide (key a = k)).filter fun a =>
          key a = j := by
      refine List.flatMap_congr fun j hj => ?_
      rw [List.filter_filter]
      refine List.filter_congr fun a _ => ?_
      have hjk : j ≠ k := fun e => hks.1 (e ▸ hj)
      by_cases ha : key a = j
      · simp [ha, hjk]
      · simp [ha]
    rw [List.flatMap_cons, hrest]
    have hperm := ih (items.filter fun a => !decide (key a = k)) hks.2 fun a ha => by
      obtain ⟨ha, hak⟩ := List.mem_filter.mp ha
      exact (List.mem_cons.mp (hall a ha)).resolve_left (by simpa using hak)
    exact (hperm.append_left _).trans (List.filter_append_perm _ items)

/-- Together the buckets hold what is sorted into them. -/
theorem flatten_buckets_perm : ((buckets key items).map Prod.snd).flatten.Perm items := by
  have : ((buckets key items).map Prod.snd).flatten =
      (items.map key).eraseDups.flatMap fun k => items.filter fun a => key a = k := by
    simp [buckets, List.flatMap, Function.comp_def]
  rw [this]
  refine flatMap_filter_perm key items (nodup_eraseDups _) fun a ha => ?_
  exact List.mem_eraseDups.mpr (List.mem_map_of_mem ha)

end

/-- If the items are in order, so are the first items of the buckets. -/
theorem pairwise_heads_buckets {R : α → α → Prop} (key : α → κ) {items : List α}
    (h : items.Pairwise R) :
    (buckets key items).Pairwise fun b b' => ∀ x ∈ b.2.head?, ∀ y ∈ b'.2.head?, R x y := by
  rw [buckets, List.pairwise_map]
  induction items using filter_induction (fun a b : α => !key b == key a) with
  | nil => simp
  | cons a items ih =>
    rw [List.pairwise_cons] at h
    rw [List.map_cons, List.eraseDups_cons, List.filter_map, List.pairwise_cons]
    have hmem : ∀ {k}, k ∈ ((items.filter fun b => !key b == key a).map key).eraseDups →
        key a ≠ k := fun hk e => by
      obtain ⟨b, hb, rfl⟩ := List.mem_map.mp (List.mem_eraseDups.mp hk)
      simpa [e] using (List.mem_filter.mp hb).2
    have hbucket : ∀ {k}, key a ≠ k → (a :: items).filter (fun b => key b = k) =
        (items.filter fun b => !key b == key a).filter fun b => key b = k := by
      intro k hne
      rw [List.filter_cons_of_neg (by simpa using hne), List.filter_filter]
      refine List.filter_congr fun b _ => ?_
      by_cases hb : key b = k
      · simp [hb, Ne.symm hne]
      · simp [hb]
    constructor
    · intro k hk x hx y hy
      rw [List.filter_cons_of_pos (by simp), List.head?_cons, Option.mem_some_iff] at hx
      subst hx
      rw [hbucket (hmem hk)] at hy
      exact h.1 y (List.mem_of_mem_filter (List.mem_of_mem_filter (List.mem_of_mem_head? hy)))
    · refine (ih (h.2.filter _)).imp_of_mem fun {j k} hj hk hheads => ?_
      rw [hbucket (hmem hj), hbucket (hmem hk)]
      exact hheads

end ContractPress
