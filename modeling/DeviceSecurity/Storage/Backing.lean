import DeviceSecurity.Error

/-!
# Backing stores

A vault keeps its sealed strings in a store that it does not trust. A store is given by five
operations on a state of any type; each may fail, and says what the state is afterwards.
`Backing.memory` is the store in memory, a list of entries with one entry a key.
-/

namespace DeviceSecurity

/-- The operations of a store of strings whose states are of type `σ`. -/
structure Backing (σ : Type) where
  /-- The value of a key. -/
  get : String → σ → Except Error (Option String) × σ
  /-- Inserts or replaces the value of a key. -/
  set : String → String → σ → Except Error Unit × σ
  /-- Removes a key; true if it was there. -/
  remove : String → σ → Except Error Bool × σ
  /-- All keys. -/
  keys : σ → Except Error (List String) × σ
  /-- Removes everything. -/
  clear : σ → Except Error Unit × σ

/-! ## Entries in memory -/

/-- The content of a store in memory, in the order of the first insertions. -/
abbrev Entries := List (String × String)

namespace Entries

/-- The value of a key. -/
def get? (entries : Entries) (key : String) : Option String := entries.lookup key

/-- Replaces the value of a key, or adds the key at the end. -/
def insert (key value : String) : Entries → Entries
  | [] => [(key, value)]
  | (k, v) :: rest => if k = key then (key, value) :: rest else (k, v) :: insert key value rest

/-- Removes a key. -/
def erase (entries : Entries) (key : String) : Entries := entries.filter (·.1 ≠ key)

/-- The keys. -/
def keys (entries : Entries) : List String := entries.map (·.1)

theorem get?_insert (entries : Entries) (key value k : String) :
    (entries.insert key value).get? k = if k = key then some value else entries.get? k := by
  induction entries with
  | nil =>
    by_cases h : k = key
    · simp [insert, get?, h]
    · have hk : (k == key) = false := by simpa using h
      simp [insert, get?, h, hk]
  | cons e rest ih =>
    obtain ⟨k', v⟩ := e
    simp only [get?] at ih ⊢
    by_cases h : k' = key <;> by_cases hk : k = k' <;> simp_all [insert, List.lookup_cons] <;> grind

theorem get?_erase (entries : Entries) (key k : String) :
    (entries.erase key).get? k = if k = key then none else entries.get? k := by
  induction entries with
  | nil => simp [erase, get?]
  | cons e rest ih =>
    obtain ⟨k', v⟩ := e
    simp only [erase, get?] at ih ⊢
    by_cases h : k' = key <;> by_cases hk : k = k' <;> simp_all [List.lookup_cons] <;> grind

theorem mem_keys_insert (entries : Entries) (key value k : String) :
    k ∈ (entries.insert key value).keys ↔ k = key ∨ k ∈ entries.keys := by
  induction entries with
  | nil => simp [insert, keys]
  | cons e rest ih =>
    obtain ⟨k', v⟩ := e
    by_cases h : k' = key
    · simp [insert, keys, h]
    · simp only [insert, keys, h] at ih ⊢
      simp [ih, or_left_comm]

end Entries

namespace Backing

/-- The store in memory. Its operations never fail. -/
def memory : Backing Entries where
  get key entries := (.ok (entries.get? key), entries)
  set key value entries := (.ok (), entries.insert key value)
  remove key entries := (.ok (entries.get? key).isSome, entries.erase key)
  keys entries := (.ok entries.keys, entries)
  clear _ := (.ok (), [])

/-! ## Failing stores -/

/-- The operations of a store, by kind. -/
inductive Operation where
  | get
  | set
  | remove
  | keys
  | clear
deriving DecidableEq, Repr

/-- The name of an operation. -/
def Operation.name : Operation → String
  | get => "get"
  | set => "set"
  | remove => "remove"
  | keys => "keys"
  | clear => "clear"

/-- All operations. -/
def Operation.all : List Operation := [get, set, remove, keys, clear]

/-- How an operation of a failing store fails. -/
def Operation.failure (operation : Operation) : Error :=
  .internal ("store " ++ operation.name ++ " failed")

/-- A store some of whose operations fail, and then leave the state alone. -/
def failing {σ : Type} (fails : Operation → Bool) (b : Backing σ) : Backing σ where
  get key s := if fails .get then (.error (Operation.failure .get), s) else b.get key s
  set key value s := if fails .set then (.error (Operation.failure .set), s) else b.set key value s
  remove key s := if fails .remove then (.error (Operation.failure .remove), s) else b.remove key s
  keys s := if fails .keys then (.error (Operation.failure .keys), s) else b.keys s
  clear s := if fails .clear then (.error (Operation.failure .clear), s) else b.clear s

end Backing

end DeviceSecurity
