/-! # Tables

A table assigns values to names and keeps the names in the order in which they were first
entered. Entering a name again replaces its value and leaves its place. -/
namespace BehaviorPlan

structure Table (α : Type) where
  entries : List (String × α)
  deriving DecidableEq, Repr

namespace Table

variable {α : Type}

def empty : Table α := ⟨[]⟩

def keys (t : Table α) : List String :=
  t.entries.map (·.1)

def values (t : Table α) : List α :=
  t.entries.map (·.2)

def get? (t : Table α) (key : String) : Option α :=
  t.entries.lookup key

def insert (t : Table α) (key : String) (value : α) : Table α :=
  if key ∈ t.keys then ⟨t.entries.map fun e => if e.1 = key then (key, value) else e⟩
  else ⟨t.entries ++ [(key, value)]⟩

/-- Puts a value at the end of the list that stands under the key. -/
def push (t : Table (List α)) (key : String) (value : α) : Table (List α) :=
  t.insert key ((t.get? key).getD [] ++ [value])

def ofPairs (pairs : List (String × α)) : Table α :=
  pairs.foldl (fun t p => t.insert p.1 p.2) empty

def sorted (t : Table α) : List (String × α) :=
  t.entries.mergeSort fun a b => decide (a.1 ≤ b.1)

def ofKeys (keys : List String) (value : String → α) : Table α :=
  ⟨keys.map fun k => (k, value k)⟩

@[simp] theorem keys_ofKeys (keys : List String) (value : String → α) :
    (ofKeys keys value).keys = keys := by
  simp [ofKeys, Table.keys, Function.comp_def]

@[simp] theorem get?_empty (key : String) : (empty : Table α).get? key = none := rfl

theorem get?_ofKeys (keys : List String) (value : String → α) (key : String) :
    (ofKeys keys value).get? key = if key ∈ keys then some (value key) else none := by
  induction keys with
  | nil => rfl
  | cons k ks ih =>
    simp only [ofKeys, Table.get?] at ih
    simp only [ofKeys, Table.get?, List.map_cons, List.lookup_cons]
    by_cases h : key = k
    · subst h
      simp
    · have hb : (key == k) = false := by simpa using h
      simp [hb, ih, h]

end Table

/-- Pairs grouped by their first part, groups in order of first occurrence. -/
def groupPairs {α : Type} (pairs : List (String × α)) : Table (List α) :=
  Table.ofKeys (pairs.map (·.1)).eraseDups fun k => (pairs.filter (·.1 = k)).map (·.2)

end BehaviorPlan
