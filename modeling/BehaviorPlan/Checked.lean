import BehaviorPlan.Failure

/-! # Checked values

A type of checked values says what is wrong with a value, if anything. Checking passes a value
on or fails with its first defect. -/
namespace BehaviorPlan

class Checked (α : Type) where
  defect? : α → Option Defect

variable {α : Type}

def checked [Checked α] (a : α) : Outcome α :=
  match Checked.defect? a with
  | some d => .error (.refused d)
  | none => .ok a

/-- The list as it is, or the first defect in it. -/
def checkedAll [Checked α] (as : List α) : Outcome (List α) :=
  match as.findSome? Checked.defect? with
  | some d => .error (.refused d)
  | none => .ok as

/-- A value as it arrives from outside, with the names of the list fields that held no list. -/
structure Draft (α : Type) where
  value : α
  malformed : List String := []
  deriving DecidableEq, Repr

def Draft.notList? (d : Draft α) (field : String) : Option Defect :=
  if field ∈ d.malformed then some (.notList field) else none

def Draft.notSet? (d : Draft α) (field : String) : Option Defect :=
  if field ∈ d.malformed then some (.notSet field) else none

/-- A draft becomes its value unless it has a defect. -/
def Draft.accept (d : Draft α) (defect? : Option Defect) : Outcome α :=
  match defect? with
  | some defect => .error (.refused defect)
  | none => .ok d.value

def blank? (field text : String) : Option Defect :=
  if text = "" then some (.blank field) else none

def defectIf (condition : Bool) (d : Defect) : Option Defect :=
  if condition then some d else none

theorem checked_eq_ok_iff [Checked α] {a b : α} :
    checked a = .ok b ↔ Checked.defect? a = none ∧ b = a := by
  unfold checked
  cases h : Checked.defect? a <;> simp [eq_comm]

theorem checkedAll_eq_ok_iff [Checked α] {as bs : List α} :
    checkedAll as = .ok bs ↔ (∀ a ∈ as, Checked.defect? a = none) ∧ bs = as := by
  unfold checkedAll
  cases h : as.findSome? Checked.defect? with
  | none =>
    rw [List.findSome?_eq_none_iff] at h
    simpa [eq_comm] using fun _ => h
  | some d =>
    obtain ⟨a, ha, hd⟩ := List.exists_of_findSome?_eq_some h
    simp only [reduceCtorEq, false_iff, not_and]
    intro hn
    simp [hn a ha] at hd

end BehaviorPlan
