import BehaviorPlan.Number.Numeral
import BehaviorPlan.Proofs.Name.Characters

/-! # Characters of numerals

Numerals have digits, letters, a point and signs, and nothing else. -/
namespace BehaviorPlan.Numeral

/-- A character of numerals, exponents and the names of the infinities among them. -/
def isNumeralChar (c : Char) : Bool :=
  Name.isIdentRest c || ['.', '+', '-'].contains c

def Numeric (cs : List Char) : Prop :=
  ∀ c ∈ cs, isNumeralChar c = true

instance (cs : List Char) : Decidable (Numeric cs) :=
  decidable_of_iff (cs.all isNumeralChar = true) List.all_eq_true

theorem numeric_nil : Numeric [] := by
  simp [Numeric]

theorem numeric_cons_iff {c : Char} {cs : List Char} :
    Numeric (c :: cs) ↔ isNumeralChar c = true ∧ Numeric cs :=
  List.forall_mem_cons

theorem Numeric.append {xs ys : List Char} (hx : Numeric xs) (hy : Numeric ys) :
    Numeric (xs ++ ys) :=
  List.forall_mem_append.mpr ⟨hx, hy⟩

theorem Numeric.subset {xs ys : List Char} (h : Numeric ys) (hsub : ∀ c ∈ xs, c ∈ ys) :
    Numeric xs :=
  fun c hc => h c (hsub c hc)

theorem Numeric.not_mem {cs : List Char} (h : Numeric cs) {c : Char}
    (hc : isNumeralChar c = false) : c ∉ cs :=
  fun hm => Bool.false_ne_true (hc.symm.trans (h c hm))

theorem numeric_digits (n : Nat) : Numeric (Nat.toDigits 10 n) := fun c hc => by
  have hdigit := Nat.isDigit_of_mem_toDigits (by decide) (by decide) hc
  simp [isNumeralChar, Name.isIdentRest, Char.isAlphanum, hdigit]

theorem numeric_toString_nat (n : Nat) : Numeric (toString n).toList := by
  rw [Nat.toString_eq_repr, Nat.toList_repr]
  exact numeric_digits n

theorem numeric_toString_int (n : Int) : Numeric (toString n).toList := by
  cases n with
  | ofNat n => exact numeric_toString_nat n
  | negSucc n =>
    have htext : (toString (Int.negSucc n)).toList = '-' :: (toString (n + 1)).toList := by
      simp [toString, Int.repr]
    rw [htext]
    exact numeric_cons_iff.mpr ⟨rfl, numeric_toString_nat _⟩

theorem numeric_replicate_zero (n : Nat) : Numeric (List.replicate n '0') := by
  intro c hc
  rw [List.eq_of_mem_replicate hc]
  rfl

theorem numeric_shortest (units : Nat) : Numeric (shortest units).1 := by
  have hzero : Numeric ['0'] := numeric_cons_iff.mpr ⟨rfl, numeric_nil⟩
  unfold shortest
  split
  · exact hzero
  · dsimp only
    split
    · rename_i m e _
      refine (numeric_digits m).subset fun c hc => ?_
      rw [List.mem_reverse] at hc
      exact List.mem_reverse.mp ((List.dropWhile_sublist _).subset hc)
    · exact hzero

theorem numeric_plain {ds : List Char} (h : Numeric ds) (k : Int) : Numeric (plain ds k) := by
  unfold plain
  split
  · exact (numeric_cons_iff.mpr ⟨rfl, numeric_cons_iff.mpr ⟨rfl, numeric_replicate_zero _⟩⟩).append h
  · have hwhole : Numeric (ds.take (k.toNat + 1)) := h.subset fun c => List.mem_of_mem_take
    refine (hwhole.append (numeric_replicate_zero _)).append (numeric_cons_iff.mpr ⟨rfl, ?_⟩)
    split
    · exact numeric_cons_iff.mpr ⟨rfl, numeric_nil⟩
    · exact h.subset fun c => List.mem_of_mem_drop

theorem numeric_scientific (s : Style) {ds : List Char} (h : Numeric ds) (k : Int) :
    Numeric (scientific s ds k) := by
  unfold scientific
  have hfirst : Numeric (ds.take 1) := h.subset fun c => List.mem_of_mem_take
  refine (hfirst.append ?_).append (numeric_cons_iff.mpr ⟨rfl, numeric_cons_iff.mpr ⟨?_, ?_⟩⟩)
  · split
    · exact numeric_nil
    · exact numeric_cons_iff.mpr ⟨rfl, h.subset fun c => List.mem_of_mem_drop⟩
  · split <;> rfl
  · exact (numeric_replicate_zero _).append (numeric_digits _)

theorem numeric_sign (negative : Bool) : Numeric (sign negative) := by
  cases negative
  · exact numeric_nil
  · exact numeric_cons_iff.mpr ⟨rfl, numeric_nil⟩

theorem numeric_ofDouble (d : Double) : Numeric (ofDouble d).toList := by
  cases d with
  | finite negative units =>
    rw [ofDouble, String.toList_ofList]
    refine (numeric_sign negative).append ?_
    unfold magnitude
    dsimp only
    split
    · exact numeric_plain (numeric_shortest units) _
    · exact numeric_scientific _ (numeric_shortest units) _
  | infinite negative =>
    rw [ofDouble, String.toList_ofList]
    exact (numeric_sign negative).append (by decide)
  | nan => decide

end BehaviorPlan.Numeral
