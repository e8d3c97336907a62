import BehaviorPlan.Failure
import BehaviorPlan.Text.Character

/-! # Reading numerals

A numeral is a decimal with an optional sign, fraction and exponent, in the digits of any script,
or the name of an infinity or of the not-a-number. An underscore may stand between two digits, and
blanks may stand around the whole. It is read as the nearest double. -/
namespace BehaviorPlan.Numeral

open Text

/-- The blanks that may stand around a numeral. The information separators are not among them. -/
def isMargin (c : Char) : Bool :=
  isBlank c && !(decide (28 ≤ c.toNat) && decide (c.toNat ≤ 31))

def withoutMargins (cs : List Char) : List Char :=
  ((cs.dropWhile isMargin).reverse.dropWhile isMargin).reverse

/-- Removes the underscores between digits; none if an underscore stands elsewhere. `inside` says
that the character before is a digit. -/
def ungroupedFrom? (inside : Bool) : List Char → Option (List Char)
  | [] => some []
  | '_' :: c :: cs =>
    if inside && c.isDigit then (ungroupedFrom? true cs).map (c :: ·) else none
  | c :: cs => if c = '_' then none else (ungroupedFrom? c.isDigit cs).map (c :: ·)

def ungrouped? (cs : List Char) : Option (List Char) :=
  ungroupedFrom? false cs

def value (ds : List Char) : Nat :=
  ds.foldl (fun n c => 10 * n + (c.toNat - 48)) 0

/-- The double nearest to `m * 10 ^ e`. The power of ten is computed only where the result is not
settled by the position of the leading digit. -/
def ofDecimal (negative : Bool) (m : Nat) (e : Int) : Double :=
  let lead := (digits m).length + e
  if m = 0 then .finite negative 0
  else if 309 < lead then .infinite negative
  else if lead < -323 then .finite negative 0
  else ofScaled negative m e

def splitSign : List Char → Bool × List Char
  | '-' :: cs => (true, cs)
  | '+' :: cs => (false, cs)
  | cs => (false, cs)

def exponent? (cs : List Char) : Option Int :=
  let (negative, ds) := splitSign cs
  if ds = [] ∨ ds.any (fun c => !c.isDigit) then none
  else some (if negative then -(value ds : Int) else value ds)

def unsigned? (negative : Bool) (cs : List Char) : Option Double :=
  let whole := cs.takeWhile Char.isDigit
  let rest := cs.dropWhile Char.isDigit
  let (fraction, rest) := match rest with
    | '.' :: rest => (rest.takeWhile Char.isDigit, rest.dropWhile Char.isDigit)
    | rest => ([], rest)
  let mantissa := whole ++ fraction
  if mantissa = [] then none
  else match rest with
    | [] => some (ofDecimal negative (value mantissa) (-fraction.length))
    | c :: rest =>
      if c = 'e' ∨ c = 'E' then
        (exponent? rest).map fun e => ofDecimal negative (value mantissa) (e - fraction.length)
      else none

/-- Reads a numeral with an optional sign; infinities and the not-a-number are spelled in letters
of any case. -/
def signed? (cs : List Char) : Option Double :=
  let (negative, cs) := splitSign cs
  let word := String.ofList (cs.map Char.toLower)
  if word = "inf" ∨ word = "infinity" then some (.infinite negative)
  else if word = "nan" then some .nan
  else unsigned? negative cs

def read? (s : String) : Option Double :=
  (ungrouped? (withoutMargins (s.toList.map asciiDigit))).bind signed?

theorem eq_filter_of_ungroupedFrom? {inside : Bool} {cs ds : List Char}
    (h : ungroupedFrom? inside cs = some ds) : ds = cs.filter (· ≠ '_') := by
  fun_induction ungroupedFrom? inside cs generalizing ds with
  | case1 => simp_all
  | case2 inside c cs hc ih =>
    obtain ⟨es, hes, rfl⟩ := Option.map_eq_some_iff.mp h
    have hne : c ≠ '_' := by
      rintro rfl
      simp at hc
    simp [ih hes, hne]
  | case3 => simp at h
  | case4 => simp at h
  | case5 inside c cs _ hc ih =>
    obtain ⟨es, hes, rfl⟩ := Option.map_eq_some_iff.mp h
    simp [ih hes, hc]

theorem ungroupedFrom?_of_not_mem {inside : Bool} {cs : List Char} (h : '_' ∉ cs) :
    ungroupedFrom? inside cs = some cs := by
  fun_induction ungroupedFrom? inside cs with
  | case1 => rfl
  | case2 | case3 | case4 => simp_all
  | case5 inside c cs _ hc ih => simp [ih fun hm => h (List.mem_cons_of_mem _ hm)]

theorem lt_powerOfTen_length (m : Nat) : m < powerOfTen (digits m).length :=
  (Nat.length_toDigits_le_iff (by omega) Nat.length_toDigits_pos).mp (Nat.le_refl _)

theorem powerOfTen_le_of_lt_length {m n : Nat} (hm : m ≠ 0) (h : n < (digits m).length) :
    powerOfTen n ≤ m := by
  by_cases hn : n = 0
  · subst hn
    exact Nat.pos_of_ne_zero hm
  · refine Nat.not_lt.mp fun hlt => ?_
    have := (Nat.length_toDigits_le_iff (by omega) (Nat.pos_of_ne_zero hn)).mpr hlt
    exact absurd this (Nat.not_le.mpr h)

theorem powerOfTen_add (a b : Nat) : powerOfTen (a + b) = powerOfTen a * powerOfTen b :=
  Nat.pow_add ..

theorem powerOfTen_pos (n : Nat) : 0 < powerOfTen n :=
  Nat.pow_pos (by omega)

theorem powerOfTen_le {a b : Nat} (h : a ≤ b) : powerOfTen a ≤ powerOfTen b :=
  Nat.pow_le_pow_right (by omega) h

theorem two_mul_one_le : 2 * Double.one ≤ powerOfTen 324 := by decide +kernel

theorem limit_le : Double.limit ≤ powerOfTen 309 * Double.one := by decide +kernel

theorem ofScaled_zero (negative : Bool) (e : Int) : ofScaled negative 0 e = .finite negative 0 := by
  unfold ofScaled Double.ofRatio
  split
  · exact Double.ofUnits_of_two_mul_lt _ (by omega)
  · exact Double.ofUnits_of_two_mul_lt _ (by have := powerOfTen_pos (-e).toNat; omega)

theorem ofScaled_of_lt_lead (negative : Bool) {m : Nat} {e : Int} (hm : m ≠ 0)
    (h : 309 < (digits m).length + e) : ofScaled negative m e = .infinite negative := by
  have hlow : powerOfTen ((digits m).length - 1) ≤ m :=
    powerOfTen_le_of_lt_length hm (Nat.sub_lt Nat.length_toDigits_pos Nat.one_pos)
  unfold ofScaled Double.ofRatio
  split
  · refine Double.ofUnits_of_limit_le _ ?_
    have h309 : powerOfTen 309 ≤ m * powerOfTen e.toNat := by
      refine Nat.le_trans ?_ (Nat.mul_le_mul_right _ hlow)
      rw [← powerOfTen_add]
      exact powerOfTen_le (by omega)
    rw [Nat.div_one]
    exact Nat.le_trans limit_le (Nat.mul_le_mul_right _ h309)
  · refine Double.ofUnits_of_limit_le _ ?_
    have h309 : powerOfTen 309 * powerOfTen (-e).toNat ≤ m := by
      refine Nat.le_trans ?_ hlow
      rw [← powerOfTen_add]
      exact powerOfTen_le (by omega)
    rw [Nat.le_div_iff_mul_le (powerOfTen_pos _)]
    calc Double.limit * powerOfTen (-e).toNat
        ≤ powerOfTen 309 * Double.one * powerOfTen (-e).toNat :=
          Nat.mul_le_mul_right _ limit_le
      _ = powerOfTen 309 * powerOfTen (-e).toNat * Double.one := Nat.mul_right_comm ..
      _ ≤ m * Double.one := Nat.mul_le_mul_right _ h309

theorem ofScaled_of_lead_lt (negative : Bool) {m : Nat} {e : Int}
    (h : (digits m).length + e < -323) : ofScaled negative m e = .finite negative 0 := by
  have he : ¬ 0 ≤ e := by omega
  rw [ofScaled, if_neg he]
  refine Double.ofUnits_of_two_mul_lt _ ?_
  calc 2 * (m * Double.one)
      = m * (2 * Double.one) := Nat.mul_left_comm ..
    _ ≤ m * powerOfTen 324 := Nat.mul_le_mul_left _ two_mul_one_le
    _ < powerOfTen (digits m).length * powerOfTen 324 :=
        Nat.mul_lt_mul_of_pos_right (lt_powerOfTen_length m) (powerOfTen_pos _)
    _ = powerOfTen ((digits m).length + 324) := (powerOfTen_add ..).symm
    _ ≤ powerOfTen (-e).toNat := powerOfTen_le (by omega)

/-- The shortcut changes nothing. -/
theorem ofDecimal_eq_ofScaled (negative : Bool) (m : Nat) (e : Int) :
    ofDecimal negative m e = ofScaled negative m e := by
  unfold ofDecimal
  dsimp only
  split
  · next hm => rw [hm, ofScaled_zero]
  · next hm =>
    split
    · next hbig => exact (ofScaled_of_lt_lead negative hm hbig).symm
    · split
      · next hsmall => exact (ofScaled_of_lead_lt negative hsmall).symm
      · rfl

end BehaviorPlan.Numeral

namespace BehaviorPlan.Quantity

def ofText (s : String) : Outcome Quantity :=
  match Numeral.read? s with
  | some d => .ok (.real d)
  | none => .error (.refused (.notNumeral s))

end BehaviorPlan.Quantity
