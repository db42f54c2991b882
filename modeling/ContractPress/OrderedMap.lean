import ContractPress.Entries

/-!
Maps from texts that keep the order of first insertion.

`OrderedMap` is `Entries` with the invariant that no key occurs twice; `entries` is its view.
-/

namespace ContractPress

structure OrderedMap (α : Type) where
  entries : Entries String α
  nodup : entries.keys.Nodup

namespace OrderedMap

variable {α β : Type}

def empty : OrderedMap α :=
  ⟨[], List.nodup_nil⟩

instance : Inhabited (OrderedMap α) :=
  ⟨empty⟩

def get? (m : OrderedMap α) (k : String) : Option α :=
  m.entries.get? k

def contains (m : OrderedMap α) (k : String) : Bool :=
  (m.get? k).isSome

def keys (m : OrderedMap α) : List String :=
  m.entries.keys

def values (m : OrderedMap α) : List α :=
  m.entries.values

def size (m : OrderedMap α) : Nat :=
  m.entries.length

def isEmpty (m : OrderedMap α) : Bool :=
  m.entries.isEmpty

/-- Gives the key a value: in its old place if it has one, at the end otherwise. -/
def insert (m : OrderedMap α) (k : String) (v : α) : OrderedMap α :=
  ⟨m.entries.insert k v, Entries.nodup_keys_insert m.nodup k v⟩

/-- Inserts pair after pair. -/
def insertAll (m : OrderedMap α) (new : List (String × α)) : OrderedMap α :=
  ⟨m.entries.insertAll new, Entries.nodup_keys_insertAll m.nodup new⟩

/-- Of equal keys, the first place and the last value. -/
def ofList (pairs : List (String × α)) : OrderedMap α :=
  empty.insertAll pairs

/-- Changes the value of a key, `initial` standing for a value that is not there. -/
def alter (m : OrderedMap α) (k : String) (initial : α) (f : α → α) : OrderedMap α :=
  m.insert k (f ((m.get? k).getD initial))

@[simp]
theorem entries_insert (m : OrderedMap α) (k : String) (v : α) :
    (m.insert k v).entries = m.entries.insert k v := rfl

@[simp]
theorem entries_insertAll (m : OrderedMap α) (new : List (String × α)) :
    (m.insertAll new).entries = m.entries.insertAll new := rfl

@[simp]
theorem entries_ofList (pairs : List (String × α)) :
    (ofList pairs).entries = Entries.ofList pairs := rfl

@[simp]
theorem get?_insert (m : OrderedMap α) (k k' : String) (v : α) :
    (m.insert k v).get? k' = if k = k' then some v else m.get? k' :=
  Entries.get?_insert k k' v m.entries

end OrderedMap

end ContractPress
