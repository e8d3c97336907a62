import BehaviorPlan.Number.Double
import BehaviorPlan.Text.Quoted

/-! # Numerals

A double is written with the fewest significant digits that read back as the same double; of
several such numerals the nearest is taken. Reports round to a fixed number of places instead. -/
namespace BehaviorPlan.Numeral

open Text

def digits (n : Nat) : List Char :=
  Nat.toDigits 10 n

def powerOfTen (n : Nat) : Nat :=
  Nat.pow 10 n

/-- The exponent `k` with `10 ^ k ≤ num / den < 10 ^ (k + 1)`, for a positive quotient. -/
def leadingExponent (num den : Nat) : Int :=
  if den ≤ num then (digits (num / den)).length - 1
  else -((digits ((den - 1) / num)).length : Int)

def ofScaled (negative : Bool) (m : Nat) (e : Int) : Double :=
  if 0 ≤ e then Double.ofRatio negative (m * powerOfTen e.toNat) 1
  else Double.ofRatio negative m (powerOfTen (-e).toNat)

def neighbours (num den : Nat) : List Nat :=
  let low := num / den
  if roundDiv num den = low then [low, low + 1] else [low + 1, low]

/-- The numeral of `count` digits nearest to the magnitude, if it reads back. -/
def withDigits? (units : Nat) (lead : Int) (count : Nat) : Option (Nat × Int) :=
  let e := lead - count + 1
  let quotient :=
    if 0 ≤ e then (units, Double.one * powerOfTen e.toNat)
    else (units * powerOfTen (-e).toNat, Double.one)
  ((neighbours quotient.1 quotient.2).find? fun m => ofScaled false m e = .finite false units).map
    (·, e)

/-- Digits without trailing zeros, and the exponent of the first one. Seventeen digits always
read back. -/
def shortest (units : Nat) : List Char × Int :=
  if units = 0 then (['0'], 0)
  else
    let lead := leadingExponent units Double.one
    match (List.range 17).findSome? fun i => withDigits? units lead (i + 1) with
    | some (m, e) =>
      let ds := digits m
      ((ds.reverse.dropWhile (· = '0')).reverse, e + ds.length - 1)
    | none => (['0'], 0)

structure Style where
  leastPlain : Int
  greatestPlain : Int
  exponentWidth : Nat
  deriving DecidableEq, Repr

/-- Plain notation for exponents from -4 to 15; exponents have at least two digits. -/
def style : Style := ⟨-4, 15, 2⟩

def plain (ds : List Char) (k : Int) : List Char :=
  if k < 0 then '0' :: '.' :: List.replicate (-k - 1).toNat '0' ++ ds
  else
    let whole := k.toNat + 1
    let fraction := ds.drop whole
    ds.take whole ++ List.replicate (whole - ds.length) '0' ++
      '.' :: (if fraction = [] then ['0'] else fraction)

def scientific (s : Style) (ds : List Char) (k : Int) : List Char :=
  let fraction := ds.drop 1
  ds.take 1 ++ (if fraction = [] then [] else '.' :: fraction) ++
    'e' :: (if k < 0 then '-' else '+') :: padLeft s.exponentWidth '0' (digits k.natAbs)

def magnitude (s : Style) (units : Nat) : List Char :=
  let (ds, k) := shortest units
  if s.leastPlain ≤ k ∧ k ≤ s.greatestPlain then plain ds k else scientific s ds k

def sign (negative : Bool) : List Char :=
  if negative then ['-'] else []

def ofDouble : Double → String
  | .finite s u => String.ofList (sign s ++ magnitude style u)
  | .infinite s => String.ofList (sign s ++ ['i', 'n', 'f'])
  | .nan => "nan"

/-- Rounded to the given number of places, a half going to the even digit. -/
def fixed (places : Nat) : Double → String
  | .finite s u =>
    let ds := padLeft (places + 1) '0' (digits (roundDiv (u * powerOfTen places) Double.one))
    let whole := ds.length - places
    String.ofList (sign s ++ ds.take whole ++ (if places = 0 then [] else '.' :: ds.drop whole))
  | d => ofDouble d

end BehaviorPlan.Numeral
