import Mathlib.Data.List.Forall2
import BehaviorPlan.Finding

/-! # Success of outcomes

A sequence succeeds step by step, a list element by element, and a check exactly if there is no
defect. -/
namespace BehaviorPlan

namespace Outcome

variable {α β : Type}

theorem bind_eq_ok_iff {x : Outcome α} {f : α → Outcome β} {b : β} :
    (x >>= f) = .ok b ↔ ∃ a, x = .ok a ∧ f a = .ok b := by
  cases x <;> simp [bind, Except.bind]

theorem mapM_eq_ok_iff {f : α → Outcome β} {xs : List α} {ys : List β} :
    xs.mapM f = .ok ys ↔ List.Forall₂ (fun x y => f x = .ok y) xs ys := by
  induction xs generalizing ys with
  | nil => simp [pure, Except.pure, eq_comm]
  | cons x xs ih =>
    rw [List.mapM_cons, bind_eq_ok_iff, List.forall₂_cons_left_iff]
    constructor
    · rintro ⟨y, hy, h⟩
      obtain ⟨zs, hzs, h⟩ := bind_eq_ok_iff.mp h
      cases h
      exact ⟨y, zs, hy, ih.mp hzs, rfl⟩
    · rintro ⟨y, zs, hy, hzs, rfl⟩
      exact ⟨y, hy, bind_eq_ok_iff.mpr ⟨zs, ih.mpr hzs, rfl⟩⟩

theorem mapM_eq_ok_map {f : α → Outcome β} {g : α → β} {xs : List α}
    (h : ∀ x ∈ xs, f x = .ok (g x)) : xs.mapM f = .ok (xs.map g) := by
  rw [mapM_eq_ok_iff, List.forall₂_map_right_iff, List.forall₂_same]
  exact h

theorem exists_of_mem_mapM {f : α → Outcome β} {xs : List α} {ys : List β}
    (h : xs.mapM f = .ok ys) {y : β} (hy : y ∈ ys) : ∃ x ∈ xs, f x = .ok y := by
  have hforall := mapM_eq_ok_iff.mp h
  induction hforall with
  | nil => simp at hy
  | @cons x z xs zs hz hzs ih =>
    rcases List.mem_cons.mp hy with rfl | hy
    · exact ⟨x, by simp, hz⟩
    · obtain ⟨x', hx', hok⟩ := ih (mapM_eq_ok_iff.mpr hzs) hy
      exact ⟨x', by simp [hx'], hok⟩

theorem exists_mapM_eq_ok {f : α → Outcome β} {xs : List α} (h : ∀ x ∈ xs, ∃ y, f x = .ok y) :
    ∃ ys, xs.mapM f = .ok ys := by
  induction xs with
  | nil => exact ⟨[], rfl⟩
  | cons x xs ih =>
    obtain ⟨y, hy⟩ := h x (by simp)
    obtain ⟨ys, hys⟩ := ih fun z hz => h z (by simp [hz])
    exact ⟨y :: ys, mapM_eq_ok_iff.mpr (.cons hy (mapM_eq_ok_iff.mp hys))⟩

end Outcome

variable {α : Type}

@[simp] theorem blank?_eq_none_iff {field text : String} :
    blank? field text = none ↔ text ≠ "" := by
  simp [blank?]

@[simp] theorem defectIf_eq_none_iff {condition : Bool} {d : Defect} :
    defectIf condition d = none ↔ condition = false := by
  simp [defectIf]

/-- Messages start with a fixed piece of text, so they are not blank. -/
theorem append_ne_empty {s t : String} (h : s ≠ "") : s ++ t ≠ "" := by
  simp [h]

theorem checked_of_sound [Checked α] {a : α} (h : Checked.defect? a = none) : checked a = .ok a :=
  checked_eq_ok_iff.mpr ⟨h, rfl⟩

theorem checkedAll_of_sound [Checked α] {as : List α} (h : ∀ a ∈ as, Checked.defect? a = none) :
    checkedAll as = .ok as :=
  checkedAll_eq_ok_iff.mpr ⟨h, rfl⟩

theorem Finding.sound_iff {f : Finding} (h : f.line = none) :
    Checked.defect? f = none ↔ f.message ≠ "" := by
  simp [Checked.defect?, h]

end BehaviorPlan
