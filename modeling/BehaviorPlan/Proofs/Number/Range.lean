import Mathlib.Algebra.Order.Ring.Nat
import BehaviorPlan.Failure

/-! # The range of computed doubles

Rounding keeps a magnitude on its side of every power of two. So whole numbers below the limit
are finite doubles, quotients are not negative, and one less a part of one stays between zero and
one. -/
namespace BehaviorPlan

theorem roundDiv_le {num den c : Nat} (h : num ≤ c * den) : roundDiv num den ≤ c := by
  rcases Nat.eq_zero_or_pos den with rfl | hden
  · obtain rfl : num = 0 := by simpa using h
    simp [roundDiv]
  have hq : num / den ≤ c := Nat.div_le_of_le_mul (by rwa [Nat.mul_comm])
  rcases Nat.lt_or_eq_of_le hq with hlt | heq
  · unfold roundDiv
    dsimp only
    split
    · exact hq
    · split
      · exact hlt
      · split
        · exact hq
        · exact hlt
  · -- A quotient that reaches the bound leaves no remainder to round up.
    have hr : num % den = 0 := by
      have hm := Nat.div_add_mod num den
      rw [heq, Nat.mul_comm] at hm
      omega
    simp [roundDiv, hr, hden, hq]

namespace Double

theorem roundUnits_le_two_pow {k num den : Nat} (h : num ≤ Nat.pow 2 k * den) :
    roundUnits num den ≤ Nat.pow 2 k := by
  have hquot : num / den ≤ Nat.pow 2 k := Nat.div_le_of_le_mul (by rwa [Nat.mul_comm])
  have hexp : (num / den).log2 - 52 ≤ k := by
    rcases Nat.eq_zero_or_pos (num / den) with hz | hpos
    · simp [hz]
    · have hself : 2 ^ (num / den).log2 ≤ 2 ^ k := (Nat.log2_self_le hpos.ne').trans hquot
      exact (Nat.sub_le _ _).trans ((Nat.pow_le_pow_iff_right Nat.one_lt_two).mp hself)
  have hsplit : Nat.pow 2 (k - ((num / den).log2 - 52)) * stepAt (num / den) = Nat.pow 2 k :=
    (Nat.pow_add ..).symm.trans (congrArg (Nat.pow 2) (Nat.sub_add_cancel hexp))
  have hround : roundDiv num (den * stepAt (num / den)) ≤
      Nat.pow 2 (k - ((num / den).log2 - 52)) := by
    refine roundDiv_le (h.trans_eq ?_)
    rw [← hsplit, Nat.mul_assoc, Nat.mul_comm den]
  calc roundUnits num den
      ≤ Nat.pow 2 (k - ((num / den).log2 - 52)) * stepAt (num / den) :=
        Nat.mul_le_mul_right _ hround
    _ = Nat.pow 2 k := hsplit

/-- A magnitude up to a power of two below the limit stays finite and below that power. -/
theorem exists_ofUnits_eq_finite (negative : Bool) {k m n : Nat} (hk : Nat.pow 2 k < limit)
    (h : m ≤ Nat.pow 2 k * n) :
    ∃ units, ofUnits negative m n = finite negative units ∧ units ≤ Nat.pow 2 k := by
  have hle := roundUnits_le_two_pow h
  have hlt : roundUnits m n < limit := Nat.lt_of_le_of_lt hle hk
  exact ⟨roundUnits m n, by simp only [ofUnits, hlt, if_true], hle⟩

theorem ofRatio_cases (m n : Nat) :
    (∃ units, ofRatio false m n = finite false units) ∨ ofRatio false m n = infinite false := by
  unfold ofRatio ofUnits
  dsimp only
  split
  · exact Or.inl ⟨_, rfl⟩
  · exact Or.inr rfl

/-- One is a power of two, and so are the numbers far beyond any count. All of them are far below
the limit. -/
theorem magnitudes : ofRatio false 1 1 = finite false one ∧
    (one = Nat.pow 2 1074 ∧ Nat.pow 2 1074 < limit) ∧
      Nat.pow 2 1023 * one = Nat.pow 2 2097 ∧ Nat.pow 2 2097 < limit := by
  decide +kernel

theorem ofRatio_one : ofRatio false 1 1 = finite false one := by
  obtain ⟨hone, -, -⟩ := magnitudes
  exact hone

theorem exists_one_eq : ∃ k, one = Nat.pow 2 k ∧ Nat.pow 2 k < limit := by
  obtain ⟨-, hone, -⟩ := magnitudes
  exact ⟨_, hone⟩

theorem exists_bound_eq : ∃ k, Nat.pow 2 1023 * one = Nat.pow 2 k ∧ Nat.pow 2 k < limit := by
  obtain ⟨-, -, hbound⟩ := magnitudes
  exact ⟨_, hbound⟩

/-- Counts up to the bound are doubles. -/
def Holds (bound : Nat) : Prop :=
  ∀ n : Nat, n ≤ bound → ∃ units, ofInt n = finite false units

theorem Holds.mono {bound smaller : Nat} (h : Holds bound) (hle : smaller ≤ bound) :
    Holds smaller :=
  fun n hn => h n (Nat.le_trans hn hle)

theorem le_two_pow {n : Nat} (h : n ≤ 1023) : n ≤ Nat.pow 2 1023 := by
  generalize 1023 = k at h ⊢
  exact Nat.le_trans h (Nat.le_of_lt Nat.lt_two_pow_self)

/-- Numbers far beyond any count are in range. -/
theorem holds_two_pow : Holds (Nat.pow 2 1023) := by
  intro n h
  generalize hb : Nat.pow 2 1023 = bound at h
  obtain ⟨k, hone, hlimit⟩ := exists_bound_eq
  rw [hb] at hone
  have hbound : n * one ≤ Nat.pow 2 k * 1 :=
    calc n * one
        ≤ bound * one := Nat.mul_le_mul_right one h
      _ = Nat.pow 2 k := hone
      _ = Nat.pow 2 k * 1 := (Nat.mul_one _).symm
  obtain ⟨units, hu, _⟩ := exists_ofUnits_eq_finite false hlimit hbound
  have hsign : decide ((n : Int) < 0) = false := decide_eq_false (by omega)
  exact ⟨units, by rw [ofInt, hsign, Int.natAbs_natCast, ofRatio, hu]⟩

end Double

namespace Quantity

theorem le_eq_of_levels {a b : Quantity} {x y : Level} (ha : a.level? = some x)
    (hb : b.level? = some y) : a.le b = x.le y := by
  simp only [le, ha, hb]

theorem level?_whole (n : Int) : (whole n).level? = some (.steps (n * Double.one)) := rfl

theorem level?_finite (units : Nat) :
    (real (.finite false units)).level? = some (.steps units) := rfl

theorem toDouble?_whole_eq (n : Int) : (whole n).toDouble? = (Double.ofInt n).bounded? := rfl

theorem toDouble?_whole {n : Int} {negative : Bool} {units : Nat}
    (h : Double.ofInt n = .finite negative units) :
    (whole n).toDouble? = some (.finite negative units) := by
  rw [toDouble?_whole_eq, h]
  rfl

theorem toDouble_of_some {q : Quantity} {d : Double} (h : q.toDouble? = some d) :
    q.toDouble = .ok d := by
  rw [toDouble, h]

theorem not_ratio_lt_zero (m n : Nat) : (real (Double.ofRatio false m n)).lt .zero = false := by
  have hlevel : ∃ x, (real (Double.ofRatio false m n)).level? = some x ∧
      (Level.steps (0 * Double.one)).le x = true := by
    rcases Double.ofRatio_cases m n with ⟨units, hd⟩ | hd <;> rw [hd]
    · refine ⟨_, level?_finite _, ?_⟩
      simp only [Level.le, Int.zero_mul, Int.natCast_nonneg, decide_true]
    · exact ⟨.greatest, rfl, rfl⟩
  obtain ⟨x, hx, hle⟩ := hlevel
  rw [zero, lt_eq_not_le hx (level?_whole 0), le_eq_of_levels (level?_whole 0) hx, hle]
  rfl

theorem inUnitInterval_of_le_one {units : Nat} (h : units ≤ Double.one) :
    (real (.finite false units)).inUnitInterval = true := by
  rw [inUnitInterval, le_eq_of_levels (level?_whole 0) (level?_finite units),
    le_eq_of_levels (level?_finite units) (level?_whole 1)]
  simp only [Level.le, Int.zero_mul, Int.one_mul, Int.natCast_nonneg, Int.ofNat_le.mpr h,
    decide_true, Bool.and_true]

theorem inUnitInterval_one_sub {units : Nat} (h : units ≤ Double.one) :
    (real ((Double.finite false Double.one).sub (.finite false units))).inUnitInterval = true := by
  obtain ⟨k, hone, hlimit⟩ := Double.exists_one_eq
  simp only [Double.sub, Double.neg, Double.add, Bool.not_false, Bool.false_eq_true, if_false]
  rcases Nat.lt_or_eq_of_le h with hlt | heq
  · have hbound : Double.one - units ≤ Nat.pow 2 k * 1 :=
      calc Double.one - units
          ≤ Double.one := Nat.sub_le Double.one units
        _ = Nat.pow 2 k := hone
        _ = Nat.pow 2 k * 1 := (Nat.mul_one _).symm
    obtain ⟨rest, hrest, hle⟩ := Double.exists_ofUnits_eq_finite false hlimit hbound
    rw [if_pos hlt, hrest]
    exact inUnitInterval_of_le_one (hone ▸ hle)
  · rw [heq, if_neg (Nat.lt_irrefl _), if_neg (Nat.lt_irrefl _)]
    exact inUnitInterval_of_le_one (Nat.zero_le _)

end Quantity

end BehaviorPlan
