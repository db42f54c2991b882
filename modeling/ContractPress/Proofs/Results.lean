import ContractPress.Log.Traced
import Mathlib.Data.List.Forall2

/-!
When sequences of computations succeed, and with what.

A traversal succeeds if every item does, and it fails as its first failing item. `FailsFirst`
says this of any computation for which the faults that it can meet are listed in their order. The
result of a traced computation is that of the computation without its events.
-/

namespace ContractPress

variable {ε ε' α β γ : Type}

@[simp]
theorem bind_eq_ok {x : Except ε α} {f : α → Except ε β} {b : β} :
    x >>= f = .ok b ↔ ∃ a, x = .ok a ∧ f a = .ok b := by
  cases x <;> simp [bind, Except.bind]

theorem bind_eq_error {x : Except ε α} {f : α → Except ε β} {e : ε} :
    x >>= f = .error e ↔ x = .error e ∨ ∃ a, x = .ok a ∧ f a = .error e := by
  cases x <;> simp [bind, Except.bind]

@[simp]
theorem pure_eq_ok {a b : α} : (pure a : Except ε α) = .ok b ↔ a = b := by
  simp [pure, Except.pure]

@[simp]
theorem mapError_eq_ok {r : Except ε α} {change : ε → ε'} {a : α} :
    r.mapError change = .ok a ↔ r = .ok a := by
  cases r with
  | ok _ => simp [Except.mapError]
  | error _ => exact ⟨nofun, nofun⟩

theorem mapError_eq_error {r : Except ε α} {change : ε → ε'} {e' : ε'} :
    r.mapError change = .error e' ↔ ∃ e, r = .error e ∧ change e = e' := by
  cases r <;> simp [Except.mapError]

theorem map_eq_ok {r : Except ε α} {f : α → β} {b : β} :
    r.map f = .ok b ↔ ∃ a, r = .ok a ∧ f a = b := by
  cases r <;> simp [Except.map]

theorem map_eq_error {r : Except ε α} {f : α → β} {e : ε} :
    r.map f = .error e ↔ r = .error e := by
  cases r <;> simp [Except.map]

theorem mapM_eq_ok {f : α → Except ε β} {items : List α} {results : List β} :
    items.mapM f = .ok results ↔ List.Forall₂ (fun a b => f a = .ok b) items results := by
  induction items generalizing results with
  | nil => rw [List.mapM_nil, pure_eq_ok, List.forall₂_nil_left_iff, eq_comm]
  | cons a items ih =>
    simp only [List.mapM_cons, bind_eq_ok, pure_eq_ok, ih, List.forall₂_cons_left_iff]
    constructor
    · intro h
      obtain ⟨b, hb, bs, hbs, rfl⟩ := h
      exact ⟨b, bs, hb, hbs, rfl⟩
    · intro h
      obtain ⟨b, bs, hb, hbs, rfl⟩ := h
      exact ⟨b, hb, bs, hbs, rfl⟩

theorem mapM_eq_some {f : α → Option β} {items : List α} {results : List β} :
    items.mapM f = some results ↔ List.Forall₂ (fun a b => f a = some b) items results := by
  induction items generalizing results with
  | nil => rw [List.mapM_nil, Option.pure_def, Option.some_inj, List.forall₂_nil_left_iff, eq_comm]
  | cons a items ih =>
    simp only [List.mapM_cons, Option.bind_eq_bind, Option.bind_eq_some_iff, Option.pure_def,
      Option.some_inj, ih, List.forall₂_cons_left_iff]
    constructor
    · rintro ⟨b, hb, bs, hbs, rfl⟩
      exact ⟨b, bs, hb, hbs, rfl⟩
    · rintro ⟨b, bs, hb, hbs, rfl⟩
      exact ⟨b, hb, bs, hbs, rfl⟩

/-- A traversal fails where its first item fails. -/
theorem mapM_eq_error {f : α → Except ε β} {items : List α} {e : ε} :
    items.mapM f = .error e ↔
      ∃ before a after, items = before ++ a :: after ∧ (∀ x ∈ before, ∃ b, f x = .ok b) ∧
        f a = .error e := by
  induction items with
  | nil => simp [pure, Except.pure]
  | cons a items ih =>
    rw [List.mapM_cons]
    cases ha : f a with
    | error e' =>
      show (.error e' : Except ε (List β)) = .error e ↔ _
      rw [Except.error.injEq]
      refine ⟨fun h => ⟨[], a, items, rfl, by simp, h ▸ ha⟩, ?_⟩
      intro h
      obtain ⟨before, x, after, hitems, hbefore, hx⟩ := h
      cases before with
      | nil =>
        obtain ⟨rfl, -⟩ := List.cons.inj hitems
        exact Except.error.inj (ha.symm.trans hx)
      | cons y before =>
        obtain ⟨rfl, -⟩ := List.cons.inj hitems
        obtain ⟨b, hb⟩ := hbefore a List.mem_cons_self
        exact absurd (ha.symm.trans hb) nofun
    | ok b =>
      have hbind : ((.ok b : Except ε β) >>= fun b => items.mapM f >>= fun bs => pure (b :: bs)) =
          .error e ↔ items.mapM f = .error e := by
        simp [bind_eq_error, pure, Except.pure]
      rw [hbind, ih]
      constructor
      · intro h
        obtain ⟨before, x, after, rfl, hbefore, hx⟩ := h
        exact ⟨a :: before, x, after, rfl, List.forall_mem_cons.mpr ⟨⟨b, ha⟩, hbefore⟩, hx⟩
      · intro h
        obtain ⟨before, x, after, hitems, hbefore, hx⟩ := h
        cases before with
        | nil =>
          obtain ⟨rfl, -⟩ := List.cons.inj hitems
          exact absurd (ha.symm.trans hx) nofun
        | cons y before =>
          obtain ⟨rfl, rfl⟩ := List.cons.inj hitems
          exact ⟨before, x, after, rfl, (List.forall_mem_cons.mp hbefore).2, hx⟩

/-! ### First faults -/

/-- A computation fails with the first of these faults, and does not fail if there are none. -/
def FailsFirst (r : Except ε α) (faults : List ε) : Prop :=
  ∀ e, r = .error e ↔ faults.head? = some e

namespace FailsFirst

variable {r : Except ε α} {faults : List ε}

theorem ok (a : α) : FailsFirst (.ok a : Except ε α) [] :=
  fun _ => ⟨nofun, nofun⟩

theorem error (e : ε) : FailsFirst (.error e : Except ε α) [e] := by
  intro e'
  rw [List.head?_cons, Except.error.injEq, Option.some.injEq]

theorem exists_ok_iff (h : FailsFirst r faults) : (∃ a, r = .ok a) ↔ faults = [] := by
  cases r with
  | ok a =>
    refine ⟨fun _ => List.head?_eq_none_iff.mp ?_, fun _ => ⟨a, rfl⟩⟩
    refine Option.eq_none_iff_forall_ne_some.mpr fun e he => ?_
    cases (h e).mpr he
  | error e =>
    refine ⟨nofun, ?_⟩
    rintro rfl
    cases (h e).mp rfl

/-- One computation after the other meets the faults of the first and then those of the second. -/
theorem bind (h : FailsFirst r faults) {f : α → Except ε β} {more : List ε}
    (hf : ∀ a, r = .ok a → FailsFirst (f a) more) : FailsFirst (r >>= f) (faults ++ more) := by
  cases r with
  | ok a =>
    rw [h.exists_ok_iff.mp ⟨a, rfl⟩]
    exact hf a rfl
  | error e' =>
    intro e
    show (.error e' : Except ε β) = .error e ↔ _
    rw [List.head?_append, (h e').mp rfl, Except.error.injEq, Option.some_or, Option.some.injEq]

/-- What is made of the result does not change where a computation fails. -/
theorem bind_pure (h : FailsFirst r faults) (f : α → β) :
    FailsFirst (r >>= fun a => pure (f a)) faults := by
  rw [← List.append_nil faults]
  exact h.bind fun a _ => .ok (f a)

/-- A traversal meets the faults of its items one after the other. -/
theorem mapM {f : α → Except ε β} {faults : α → List ε} {items : List α}
    (h : ∀ a ∈ items, FailsFirst (f a) (faults a)) :
    FailsFirst (items.mapM f) (items.flatMap faults) := by
  induction items with
  | nil => exact .ok []
  | cons a items ih =>
    rw [List.forall_mem_cons] at h
    rw [List.mapM_cons, List.flatMap_cons]
    exact h.1.bind fun b _ => (ih h.2).bind_pure (b :: ·)

end FailsFirst

/-! ### Computations with a state -/

/-- A run goes on from the state that its first part leaves. -/
theorem run_bind_of_run {σ : Type} {x : StateM σ α} {f : α → StateM σ β} {s s' : σ} {a : α}
    (h : x.run s = (a, s')) : (x >>= f).run s = (f a).run s' := by
  rw [StateT.run_bind, h]
  rfl

/-! ### Items with what comes of each -/

theorem forall₂_imp_mem {R R' : α → β → Prop} {as : List α} {bs : List β}
    (h : List.Forall₂ R as bs) (hR : ∀ a ∈ as, ∀ b, R a b → R' a b) : List.Forall₂ R' as bs :=
  ((List.forall₂_and_left as bs).mpr ⟨hR, h⟩).imp fun _ b hab => hab.1 b hab.2

/-- What holds of all items with their results, where it depends on the items only. -/
theorem forall₂_iff_forall {R R' : α → β → Prop} {P : α → Prop} {as : List α} {bs : List β}
    (h : List.Forall₂ R as bs) (hR : ∀ a ∈ as, ∀ b, R a b → (R' a b ↔ P a)) :
    List.Forall₂ R' as bs ↔ ∀ a ∈ as, P a := by
  induction h with
  | nil => simp
  | cons hab _ ih =>
    rw [List.forall_mem_cons] at hR
    rw [List.forall₂_cons, List.forall_mem_cons, hR.1 _ hab, ih hR.2]

theorem exists_of_mem_right {R : α → β → Prop} {as : List α} {bs : List β}
    (h : List.Forall₂ R as bs) {b : β} (hb : b ∈ bs) : ∃ a ∈ as, R a b := by
  induction h with
  | nil => cases hb
  | cons hab _ ih =>
    cases hb with
    | head => exact ⟨_, List.mem_cons_self, hab⟩
    | tail _ hb =>
      obtain ⟨a, ha, hab⟩ := ih hb
      exact ⟨a, List.mem_cons_of_mem _ ha, hab⟩

/-- What there is for every item can be chosen for all items at once. -/
theorem exists_forall₂ {R : α → β → Prop} {as : List α} (h : ∀ a ∈ as, ∃ b, R a b) :
    ∃ bs, List.Forall₂ R as bs := by
  induction as with
  | nil => exact ⟨[], .nil⟩
  | cons a as ih =>
    rw [List.forall_mem_cons] at h
    obtain ⟨b, hb⟩ := h.1
    obtain ⟨bs, hbs⟩ := ih h.2
    exact ⟨b :: bs, .cons hb hbs⟩

theorem forall₂_append_left {R : α → β → Prop} {as as' : List α} {bs : List β} :
    List.Forall₂ R (as ++ as') bs ↔
      ∃ bs₁ bs₂, List.Forall₂ R as bs₁ ∧ List.Forall₂ R as' bs₂ ∧ bs₁ ++ bs₂ = bs := by
  induction as generalizing bs with
  | nil => simp
  | cons a as ih =>
    simp only [List.cons_append, List.forall₂_cons_left_iff, ih]
    constructor
    · intro h
      obtain ⟨b, _, hab, ⟨bs₁, bs₂, h₁, h₂, rfl⟩, rfl⟩ := h
      exact ⟨b :: bs₁, bs₂, ⟨b, bs₁, hab, h₁, rfl⟩, h₂, rfl⟩
    · intro h
      obtain ⟨_, bs₂, ⟨b, bs₁, hab, h₁, rfl⟩, h₂, rfl⟩ := h
      exact ⟨b, bs₁ ++ bs₂, hab, ⟨bs₁, bs₂, h₁, h₂, rfl⟩, rfl⟩

theorem forall₂_flatMap_left {R : β → γ → Prop} {f : α → List β} {as : List α} {cs : List γ} :
    List.Forall₂ R (as.flatMap f) cs ↔
      ∃ css, List.Forall₂ (fun a cs => List.Forall₂ R (f a) cs) as css ∧ css.flatten = cs := by
  induction as generalizing cs with
  | nil => simp [eq_comm]
  | cons a as ih =>
    simp only [List.flatMap_cons, forall₂_append_left, ih, List.forall₂_cons_left_iff]
    constructor
    · intro h
      obtain ⟨cs₁, _, h₁, ⟨css, h₂, rfl⟩, rfl⟩ := h
      exact ⟨cs₁ :: css, ⟨cs₁, css, h₁, h₂, rfl⟩, rfl⟩
    · intro h
      obtain ⟨_, ⟨cs₁, css, h₁, h₂, rfl⟩, rfl⟩ := h
      exact ⟨cs₁, css.flatten, h₁, ⟨css, h₂, rfl⟩, rfl⟩

/-- What is in between can be chosen for all items at once. -/
theorem forall₂_exists_iff {P : α → β → Prop} {Q : α × β → γ → Prop} (as : List α) (cs : List γ) :
    List.Forall₂ (fun a c => ∃ b, P a b ∧ Q (a, b) c) as cs ↔
      ∃ bs, List.Forall₂ P as bs ∧ List.Forall₂ Q (as.zip bs) cs := by
  induction as generalizing cs with
  | nil => simp
  | cons a as ih =>
    simp only [List.forall₂_cons_left_iff, ih]
    constructor
    · intro h
      obtain ⟨c, cs, ⟨b, hab, hbc⟩, ⟨bs, has, hcs⟩, rfl⟩ := h
      exact ⟨b :: bs, ⟨b, bs, hab, has, rfl⟩, .cons hbc hcs⟩
    · intro h
      obtain ⟨_, ⟨b, bs, hab, has, rfl⟩, hzip⟩ := h
      rw [List.zip_cons_cons, List.forall₂_cons_left_iff] at hzip
      obtain ⟨c, cs, hbc, hcs, rfl⟩ := hzip
      exact ⟨c, cs, ⟨b, hab, hbc⟩, ⟨bs, has, hcs⟩, rfl⟩

namespace Traced

@[simp]
theorem result_mapM (f : α → Traced β) (items : List α) :
    (items.mapM f).result = items.mapM fun a => (f a).result := by
  induction items with
  | nil => rfl
  | cons a items ih => simp only [List.mapM_cons, result_bind, ih, result_pure]; rfl

@[simp]
theorem result_forM_note (events : List Event) : (events.forM note).result = .ok () := by
  induction events with
  | nil => rfl
  | cons e events ih => rw [List.forM_eq_forM, List.forM_cons, result_bind]; exact ih

end Traced

end ContractPress
