import ContractPress.Log.Event
import ContractPress.Failure

/-!
Computations that may fail and that report events.

A failing computation keeps the events up to its failure. The results do not depend on the events:
each law below says what the result of a combination is in terms of the results of its parts.
-/

namespace ContractPress

structure Traced (α : Type) where
  events : List Event
  result : Except Failure α

namespace Traced

variable {α β : Type}

def ofResult (result : Except Failure α) : Traced α :=
  ⟨[], result⟩

/-- Reports one event. -/
def note (e : Event) : Traced Unit :=
  ⟨[e], .ok ()⟩

def fail (failure : Failure) : Traced α :=
  ⟨[], .error failure⟩

def bind (x : Traced α) (f : α → Traced β) : Traced β :=
  match x.result with
  | .ok a => ⟨x.events ++ (f a).events, (f a).result⟩
  | .error failure => ⟨x.events, .error failure⟩

instance : Monad Traced where
  pure a := ⟨[], .ok a⟩
  bind := bind

/-- Changes the failure, if there is one. -/
def mapFailure (f : Failure → Failure) (x : Traced α) : Traced α :=
  ⟨x.events, x.result.mapError f⟩

@[simp]
theorem result_pure (a : α) : (pure a : Traced α).result = .ok a := rfl

@[simp]
theorem result_ofResult (r : Except Failure α) : (ofResult r).result = r := rfl

@[simp]
theorem result_note (e : Event) : (note e).result = .ok () := rfl

@[simp]
theorem result_fail (failure : Failure) : (fail failure : Traced α).result = .error failure := rfl

@[simp]
theorem result_bind (x : Traced α) (f : α → Traced β) :
    (x >>= f).result = x.result >>= fun a => (f a).result := by
  show (bind x f).result = _
  cases h : x.result <;> simp [bind, h, Bind.bind, Except.bind]

@[simp]
theorem events_pure (a : α) : (pure a : Traced α).events = [] := rfl

@[simp]
theorem events_note (e : Event) : (note e).events = [e] := rfl

instance : LawfulMonad Traced := LawfulMonad.mk' Traced
  (fun x => by
    obtain ⟨events, result⟩ := x
    cases result <;> simp [Functor.map, bind])
  (fun a f => by
    show bind (pure a) f = f a
    simp [bind])
  (fun x f g => by
    show bind (bind x f) g = bind x fun a => bind (f a) g
    cases hx : x.result with
    | error failure => simp [bind, hx]
    | ok a => cases hf : (f a).result <;> simp [bind, hx, hf])

@[simp]
theorem result_mapFailure (f : Failure → Failure) (x : Traced α) :
    (x.mapFailure f).result = x.result.mapError f := rfl

end Traced

end ContractPress
