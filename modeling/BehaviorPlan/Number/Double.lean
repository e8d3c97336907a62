/-! # Double precision numbers

A finite double is a whole number of the least positive step, `2 ^ -1074`, with a sign. At most
53 bits from the leading one on may be set, so larger numbers are multiples of a larger step.
Every operation computes the exact result and rounds it once, to the nearest double, a half
going to the even neighbour. -/
namespace BehaviorPlan

inductive Double where
  | finite (negative : Bool) (units : Nat)
  | infinite (negative : Bool)
  | nan
  deriving DecidableEq, Repr

/-- Nearest whole number to `num / den`; a half goes to the even neighbour. -/
def roundDiv (num den : Nat) : Nat :=
  let q := num / den
  let r := num % den
  if 2 * r < den then q
  else if den < 2 * r then q + 1
  else if q % 2 = 0 then q else q + 1

namespace Double

/-- How many steps make one. -/
def one : Nat := Nat.pow 2 1074

/-- The number of steps from which on a magnitude counts as infinite. -/
def limit : Nat := Nat.pow 2 2098

def stepAt (units : Nat) : Nat :=
  Nat.pow 2 (units.log2 - 52)

/-- Rounds `num / den` steps to a magnitude with at most 53 significant bits. -/
def roundUnits (num den : Nat) : Nat :=
  let step := stepAt (num / den)
  roundDiv num (den * step) * step

def ofUnits (negative : Bool) (num den : Nat) : Double :=
  let units := roundUnits num den
  if units < limit then finite negative units else infinite negative

def ofRatio (negative : Bool) (num den : Nat) : Double :=
  ofUnits negative (num * one) den

def ofInt (n : Int) : Double :=
  ofRatio (decide (n < 0)) n.natAbs 1

def neg : Double → Double
  | finite s u => finite (!s) u
  | infinite s => infinite (!s)
  | nan => nan

/-- A sum of zero is positive unless both terms are negative. -/
def add : Double → Double → Double
  | nan, _ | _, nan => nan
  | infinite s, infinite t => if s = t then infinite s else nan
  | infinite s, finite _ _ => infinite s
  | finite _ _, infinite t => infinite t
  | finite s u, finite t v =>
    if s = t then ofUnits s (u + v) 1
    else if v < u then ofUnits s (u - v) 1
    else if u < v then ofUnits t (v - u) 1
    else finite false 0

def sub (a b : Double) : Double :=
  add a b.neg

def isZero : Double → Bool
  | finite _ u => u == 0
  | _ => false

def isNegative : Double → Bool
  | finite s _ | infinite s => s
  | nan => false

def mul : Double → Double → Double
  | nan, _ | _, nan => nan
  | finite s u, finite t v => ofUnits (s != t) (u * v) one
  | a, b => if a.isZero || b.isZero then nan else infinite (a.isNegative != b.isNegative)

/-- A quotient by zero is infinite, unless the dividend is zero too. -/
def div : Double → Double → Double
  | nan, _ | _, nan => nan
  | infinite _, infinite _ => nan
  | infinite s, finite t _ => infinite (s != t)
  | finite s _, infinite t => finite (s != t) 0
  | finite s u, finite t v =>
    if v = 0 then (if u = 0 then nan else infinite (s != t)) else ofUnits (s != t) (u * one) v

def toNat : Double → Nat
  | finite _ u => roundDiv u one
  | _ => 0

end Double

theorem roundDiv_near (num den : Nat) (h : 0 < den) :
    2 * (roundDiv num den * den) ≤ 2 * num + den ∧ 2 * num ≤ 2 * (roundDiv num den * den) + den := by
  have hm := Nat.div_add_mod num den
  have hr := Nat.mod_lt num h
  have hc : num / den * den = den * (num / den) := Nat.mul_comm _ _
  have hs : (num / den + 1) * den = den * (num / den) + den := by
    rw [Nat.add_mul, Nat.one_mul, hc]
  unfold roundDiv
  dsimp only
  split
  · constructor <;> omega
  · split
    · constructor <;> omega
    · split <;> constructor <;> omega

theorem div_le_roundDiv (num den : Nat) : num / den ≤ roundDiv num den := by
  unfold roundDiv
  dsimp only
  split
  · exact Nat.le_refl _
  · split
    · exact Nat.le_succ _
    · split
      · exact Nat.le_refl _
      · exact Nat.le_succ _

namespace Double

theorem limit_pos : 0 < limit := by decide +kernel

/-- A magnitude below half a step is zero. -/
theorem ofUnits_of_two_mul_lt (negative : Bool) {num den : Nat} (h : 2 * num < den) :
    ofUnits negative num den = finite negative 0 := by
  have hq : num / den = 0 := Nat.div_eq_of_lt (by omega)
  have hr : num % den = num := Nat.mod_eq_of_lt (by omega)
  have hs : stepAt 0 = 1 := rfl
  have hu : roundUnits num den = 0 := by
    simp [roundUnits, roundDiv, hq, hr, hs, h]
  simp [ofUnits, hu, limit_pos]

theorem two_pow_le_roundUnits {k num den : Nat} (hk : 52 ≤ k) (h : Nat.pow 2 k ≤ num / den) :
    Nat.pow 2 k ≤ roundUnits num den := by
  have hne : num / den ≠ 0 := Nat.ne_of_gt (Nat.lt_of_lt_of_le (Nat.pow_pos Nat.two_pos) h)
  have hlog : Nat.pow 2 (num / den).log2 ≤ num / den := Nat.log2_self_le hne
  have hexp : k ≤ (num / den).log2 := (Nat.le_log2 hne).mpr h
  have hsplit : Nat.pow 2 52 * stepAt (num / den) = Nat.pow 2 (num / den).log2 := by
    have he : 52 + ((num / den).log2 - 52) = (num / den).log2 := by omega
    exact (Nat.pow_add ..).symm.trans (congrArg (Nat.pow 2) he)
  have hround : Nat.pow 2 52 ≤ roundDiv num (den * stepAt (num / den)) := by
    refine Nat.le_trans ?_ (div_le_roundDiv ..)
    have hstep : 0 < stepAt (num / den) := Nat.pow_pos Nat.two_pos
    rw [← Nat.div_div_eq_div_mul, Nat.le_div_iff_mul_le hstep, hsplit]
    exact hlog
  calc Nat.pow 2 k
      ≤ Nat.pow 2 (num / den).log2 := Nat.pow_le_pow_right Nat.two_pos hexp
    _ = Nat.pow 2 52 * stepAt (num / den) := hsplit.symm
    _ ≤ roundUnits num den := Nat.mul_le_mul_right _ hround

theorem limit_eq_two_pow : ∃ k, 52 ≤ k ∧ limit = Nat.pow 2 k :=
  ⟨2098, by decide +kernel⟩

theorem ofUnits_of_limit_le (negative : Bool) {num den : Nat} (h : limit ≤ num / den) :
    ofUnits negative num den = infinite negative := by
  obtain ⟨k, hk, hl⟩ := limit_eq_two_pow
  rw [hl] at h
  have hunits : limit ≤ roundUnits num den := hl ▸ two_pow_le_roundUnits hk h
  simp [ofUnits, Nat.not_lt.mpr hunits]

end Double

end BehaviorPlan
