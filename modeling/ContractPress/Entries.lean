/-!
Finite maps that remember the order in which their keys first appeared, as lists of pairs.

Inserting under a known key keeps the key's place and takes the new value.
-/

namespace ContractPress

/-- Keys with their values, in the order of first insertion. -/
abbrev Entries (κ α : Type) := List (κ × α)

namespace Entries

variable {κ α β : Type}

def keys (es : Entries κ α) : List κ :=
  es.map Prod.fst

def values (es : Entries κ α) : List α :=
  es.map Prod.snd

def mapValues (f : α → β) (es : Entries κ α) : Entries κ β :=
  es.map fun e => (e.1, f e.2)

variable [DecidableEq κ]

def get? (k : κ) : Entries κ α → Option α
  | [] => none
  | (k', v) :: rest => if k' = k then some v else get? k rest

def contains (k : κ) (es : Entries κ α) : Bool :=
  (get? k es).isSome

/-- Gives the key a value: in its old place if it has one, at the end otherwise. -/
def insert (k : κ) (v : α) : Entries κ α → Entries κ α
  | [] => [(k, v)]
  | (k', v') :: rest => if k' = k then (k', v) :: rest else (k', v') :: insert k v rest

def erase (k : κ) (es : Entries κ α) : Entries κ α :=
  es.filter fun e => e.1 ≠ k

/-- Inserts pair after pair. -/
def insertAll (es : Entries κ α) (new : List (κ × α)) : Entries κ α :=
  new.foldl (fun acc e => insert e.1 e.2 acc) es

/-- The map that a list of pairs describes: of equal keys, the first place and the last value. -/
def ofList (pairs : List (κ × α)) : Entries κ α :=
  insertAll [] pairs

theorem mem_keys_insert (k k' : κ) (v : α) (es : Entries κ α) :
    k' ∈ keys (insert k v es) ↔ k' = k ∨ k' ∈ keys es := by
  induction es with
  | nil => simp [insert, keys]
  | cons e rest ih =>
    obtain ⟨j, w⟩ := e
    simp only [keys] at ih
    by_cases hj : j = k
    · subst hj
      simp [insert, keys]
    · simp only [insert, hj, if_false, keys, List.map_cons, List.mem_cons, ih]
      constructor <;> rintro (h | h | h) <;> simp [h]

theorem nodup_keys_insert {es : Entries κ α} (h : (keys es).Nodup) (k : κ) (v : α) :
    (keys (insert k v es)).Nodup := by
  induction es with
  | nil => simp [insert, keys]
  | cons e rest ih =>
    obtain ⟨j, w⟩ := e
    simp only [keys, List.map_cons, List.nodup_cons] at h
    by_cases hj : j = k
    · subst hj
      simpa [insert, keys] using h
    · have hmem := mem_keys_insert k j v rest
      simp only [keys] at hmem ih
      simp only [insert, hj, if_false, keys, List.map_cons, List.nodup_cons]
      exact ⟨fun hc => (hmem.1 hc).elim hj h.1, ih h.2⟩

theorem nodup_keys_insertAll {es : Entries κ α} (h : (keys es).Nodup) (new : List (κ × α)) :
    (keys (insertAll es new)).Nodup := by
  induction new generalizing es with
  | nil => exact h
  | cons e rest ih => exact ih (nodup_keys_insert h e.1 e.2)

theorem get?_insert (k k' : κ) (v : α) (es : Entries κ α) :
    get? k' (insert k v es) = if k = k' then some v else get? k' es := by
  induction es with
  | nil => simp [insert, get?]
  | cons e rest ih =>
    obtain ⟨j, w⟩ := e
    by_cases hj : j = k
    · subst hj
      by_cases hk : j = k' <;> simp [insert, get?, hk]
    · by_cases hk : j = k'
      · subst hk
        simp [insert, get?, hj, Ne.symm hj]
      · simp [insert, get?, hj, hk, ih]

end Entries

end ContractPress
