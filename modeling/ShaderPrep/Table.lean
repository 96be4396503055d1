import ShaderPrep.Text.Basic

/-!
Finite maps from names to values in the order in which the names were first written. A later
write to a name replaces its value in place, so names never repeat.
-/
namespace ShaderPrep

namespace Entries

def find? (key : Text) : List (Text × α) → Option α
  | [] => none
  | (k, v) :: rest => if k = key then some v else find? key rest

/-- Writes `value` at `key`, in its old place or at the end. -/
def put (key : Text) (value : α) : List (Text × α) → List (Text × α)
  | [] => [(key, value)]
  | (k, v) :: rest => if k = key then (key, value) :: rest else (k, v) :: put key value rest

theorem mem_keys_put {key : Text} {value : α} {entries : List (Text × α)} {k : Text} :
    k ∈ (put key value entries).map Prod.fst ↔ k = key ∨ k ∈ entries.map Prod.fst := by
  induction entries with
  | nil => simp [put]
  | cons e entries ih =>
    obtain ⟨k', v'⟩ := e
    by_cases h : k' = key
    · simp [put, h]
    · simp only [put, h, if_false, List.map_cons, List.mem_cons, ih]
      exact or_left_comm

theorem nodup_put {key : Text} {value : α} {entries : List (Text × α)}
    (h : (entries.map Prod.fst).Nodup) : ((put key value entries).map Prod.fst).Nodup := by
  induction entries with
  | nil => simp [put]
  | cons e entries ih =>
    obtain ⟨k', v'⟩ := e
    simp only [List.map_cons, List.nodup_cons] at h
    by_cases e : k' = key
    · subst e
      simpa [put] using h
    · simp only [put, if_neg e, List.map_cons, List.nodup_cons, mem_keys_put]
      exact ⟨fun h' => h'.elim e h.1, ih h.2⟩

theorem find?_put {key : Text} {value : α} {entries : List (Text × α)} {k : Text} :
    find? k (put key value entries) = if k = key then some value else find? k entries := by
  induction entries with
  | nil => simp [put, find?, eq_comm]
  | cons e entries ih =>
    obtain ⟨k', v'⟩ := e
    by_cases e : k' = key
    · subst e
      by_cases h : k' = k <;> simp [put, find?, h, eq_comm]
      exact fun h' => absurd h'.symm h
    · by_cases h : k' = k
      · subst h
        simp [put, find?, e]
      · simp [put, find?, e, h, ih]

theorem find?_isSome {key : Text} {entries : List (Text × α)} :
    (find? key entries).isSome = true ↔ key ∈ entries.map Prod.fst := by
  induction entries with
  | nil => simp [find?]
  | cons e entries ih =>
    obtain ⟨k', v'⟩ := e
    by_cases h : k' = key
    · simp [find?, h]
    · simpa [find?, h, ih] using fun h' => absurd h'.symm h

end Entries

structure Table (α : Type) where
  entries : List (Text × α)
  nodup : (entries.map Prod.fst).Nodup

namespace Table

def empty : Table α := ⟨[], by simp⟩

instance : EmptyCollection (Table α) := ⟨empty⟩
instance : Inhabited (Table α) := ⟨empty⟩

def get? (table : Table α) (key : Text) : Option α := Entries.find? key table.entries

def has (table : Table α) (key : Text) : Bool := (table.get? key).isSome

def insert (table : Table α) (key : Text) (value : α) : Table α :=
  ⟨Entries.put key value table.entries, Entries.nodup_put table.nodup⟩

def insertAll (table : Table α) (entries : List (Text × α)) : Table α :=
  entries.foldl (fun t e => t.insert e.1 e.2) table

def ofList (entries : List (Text × α)) : Table α := (∅ : Table α).insertAll entries

def size (table : Table α) : Nat := table.entries.length

def keys (table : Table α) : List Text := table.entries.map Prod.fst

/-- Order of names by code points, which is also the order of their UTF-8 bytes. -/
def precedes : Text → Text → Bool
  | [], _ => true
  | _ :: _, [] => false
  | c :: s, d :: t => if c = d then precedes s t else c.toNat < d.toNat

/-- The entries in the order of their names. -/
def sorted (table : Table α) : List (Text × α) :=
  table.entries.mergeSort fun a b => precedes a.1 b.1

@[simp] theorem get?_empty (key : Text) : (∅ : Table α).get? key = none := rfl

@[simp] theorem get?_insert (table : Table α) (key k : Text) (value : α) :
    (table.insert key value).get? k = if k = key then some value else table.get? k :=
  Entries.find?_put

theorem get?_insert_self (table : Table α) (key : Text) (value : α) :
    (table.insert key value).get? key = some value := by simp

theorem mem_keys_insert {table : Table α} {key k : Text} {value : α} :
    k ∈ (table.insert key value).keys ↔ k = key ∨ k ∈ table.keys :=
  Entries.mem_keys_put

theorem mem_keys_iff {table : Table α} {key : Text} : key ∈ table.keys ↔ table.has key = true :=
  Entries.find?_isSome.symm

end Table
end ShaderPrep
