import ContractPress.Proofs.Results

/-!
Computations that go through stages.

A stage reports events and may fail. `Performed` says that a computation went through its stages one
after the other, up to the first that failed: the failure is that of the stage, and the events are
those of the stages it came to. It is closed under what computations are put together with.
-/

namespace ContractPress

variable {α β : Type}

/-- Something that is done on the way, of which only the success is of interest. -/
abbrev Stage := Traced Unit

def Traced.stage (x : Traced α) : Stage :=
  ⟨x.events, x.result.map fun _ => ()⟩

/-- The stages are gone through in turn; one that fails is the last. -/
inductive Performed : List Stage → Traced α → Prop where
  | done (a : α) : Performed [] (pure a)
  | cons {stage : Stage} {stages : List Stage} {x : Traced α} (ok : stage.result = .ok ())
    (rest : Performed stages x) : Performed (stage :: stages) ⟨stage.events ++ x.events, x.result⟩
  | failed {stage : Stage} {failure : Failure} (failed : stage.result = .error failure)
    (stages : List Stage) : Performed (stage :: stages) ⟨stage.events, .error failure⟩

namespace Performed

variable {stages more : List Stage} {stage : Stage} {x : Traced α}

/-- A computation is a stage of its own. -/
theorem single (x : Traced α) : Performed [x.stage] x := by
  obtain ⟨events, result⟩ := x
  cases result with
  | error failure => exact .failed rfl []
  | ok a =>
    have h : Performed [Traced.stage ⟨events, .ok a⟩] ⟨events ++ [], .ok a⟩ := .cons rfl (.done a)
    rwa [List.append_nil] at h

theorem bind {f : α → Traced β} (h : Performed stages x)
    (hf : ∀ a, x.result = .ok a → Performed more (f a)) : Performed (stages ++ more) (x >>= f) := by
  induction h with
  | done a =>
    rw [pure_bind]
    exact hf a rfl
  | @cons stage stages x ok rest ih =>
    have hbind : ((⟨stage.events ++ x.events, x.result⟩ : Traced α) >>= f) =
        ⟨stage.events ++ (x >>= f).events, (x >>= f).result⟩ := by
      simp only [Bind.bind, Traced.bind]
      cases x.result <;> simp
    rw [hbind]
    exact .cons ok (ih hf)
  | failed failed stages => exact .failed failed _

/-- What is made of the result in the end takes no stage. -/
theorem bind_pure (h : Performed stages x) (f : α → β) :
    Performed stages (x >>= fun a => pure (f a)) := by
  rw [← List.append_nil stages]
  exact h.bind fun a _ => .done (f a)

theorem mapM {γ : Type} {f : γ → Traced α} {stages : γ → List Stage} {items : List γ}
    (h : ∀ a ∈ items, Performed (stages a) (f a)) :
    Performed (items.flatMap stages) (items.mapM f) := by
  induction items with
  | nil => exact .done []
  | cons a items ih =>
    rw [List.forall_mem_cons] at h
    rw [List.mapM_cons, List.flatMap_cons]
    exact h.1.bind fun b _ => (ih h.2).bind_pure (b :: ·)

/-- A computation succeeds exactly if none of its stages fails. -/
theorem exists_ok_iff (h : Performed stages x) :
    (∃ a, x.result = .ok a) ↔ ∀ stage ∈ stages, stage.result = .ok () := by
  induction h with
  | done a => exact ⟨nofun, fun _ => ⟨a, rfl⟩⟩
  | cons ok rest ih => rw [List.forall_mem_cons, ih, and_iff_right ok]
  | failed failed stages =>
    refine ⟨nofun, fun h => ?_⟩
    cases failed.symm.trans (h _ List.mem_cons_self)

/-- A computation that fails has come to a stage that failed so, and all before it went well. -/
theorem exists_failed (h : Performed stages x) {failure : Failure}
    (hfailure : x.result = .error failure) :
    ∃ before stage after, stages = before ++ stage :: after ∧
      (∀ stage ∈ before, stage.result = .ok ()) ∧ stage.result = .error failure ∧
      x.events = (before ++ [stage]).flatMap Traced.events := by
  induction h with
  | done a => cases hfailure
  | @cons stage stages x ok rest ih =>
    obtain ⟨before, last, after, rfl, hbefore, hlast, hevents⟩ := ih hfailure
    refine ⟨stage :: before, last, after, rfl, List.forall_mem_cons.mpr ⟨ok, hbefore⟩, hlast, ?_⟩
    rw [hevents]
    rfl
  | @failed stage _ failed stages =>
    cases hfailure
    exact ⟨[], stage, stages, rfl, nofun, failed, (List.append_nil _).symm⟩

end Performed

end ContractPress
