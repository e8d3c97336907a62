import BehaviorPlan.Failure
import BehaviorPlan.Report.Palette
import BehaviorPlan.Text.Casing
import BehaviorPlan.Text.Character

/-! # Colours of console text

A colour is the console's standard one, one of its 256 numbered colours, or a mixture of red, green
and blue. A mixture is shown as a numbered colour: as a grey if it is nearly one, and otherwise as
the nearest colour of the cube. -/
namespace BehaviorPlan.Report

open Text

inductive Paint where
  | standard
  | numbered (n : Nat)
  /-- Parts of red, green and blue, each out of 255. -/
  | mixed (red green blue : Nat)
  deriving DecidableEq, Repr

/-- A paint under the word it was asked for. Two words for one paint make two colours. -/
structure Colour where
  name : String
  paint : Paint
  deriving DecidableEq, Repr

namespace Paint

def share (part : Nat) : Double :=
  .ofRatio false part 255

def half : Double := .ofRatio false 1 2

def lightness (strongest weakest : Double) : Double :=
  (strongest.add weakest).div (.ofInt 2)

/-- How far the strongest part and the weakest one are apart, measured by how far they could be at
this lightness. -/
def saturation (strongest weakest : Double) : Double :=
  let range := strongest.sub weakest
  if (Quantity.real (lightness strongest weakest)).le (.real half) then
    range.div (strongest.add weakest)
  else range.div (((Double.ofInt 2).sub strongest).sub weakest)

def greyBound : Double := .ofRatio false 15 100

/-- Black and white belong to the cube; the ramp has the greys between them. -/
def greyNumber (step : Nat) : Nat :=
  if step = 0 then 16 else if step = 25 then 231 else 231 + step

/-- The cube's steps are at 0, 95, 135, 175, 215 and 255. -/
def cubeStep (part : Nat) : Nat :=
  if part < 95 then roundDiv part 95 else roundDiv (part - 55) 40

def nearest (red green blue : Nat) : Nat :=
  let most := max red (max green blue)
  let least := min red (min green blue)
  if most = least ∨ (Quantity.real (saturation (share most) (share least))).lt (.real greyBound) then
    greyNumber ((lightness (share most) (share least)).mul (.ofInt 25)).toNat
  else 16 + 36 * cubeStep red + 6 * cubeStep green + cubeStep blue

/-- Parameters of the escape sequence that chooses the paint. `base` is 30 for the text and 40 for
its background. -/
def codes (base : Nat) : Paint → List Nat
  | standard => [base + 9]
  | numbered n =>
    if n < 8 then [base + n] else if n < 16 then [base + 52 + n] else [base + 8, 5, n]
  | mixed red green blue => [base + 8, 5, nearest red green blue]

def named? (word : String) : Option Paint :=
  if word = "default" then some standard else (palette.lookup word).map numbered

def hexValue? (c : Char) : Option Nat :=
  if c.isDigit then some (c.toNat - 48)
  else if 'a' ≤ c ∧ c ≤ 'f' then some (c.toNat - 87) else none

def hexPair? (high low : Char) : Option Nat := do
  return 16 * (← hexValue? high) + (← hexValue? low)

/-- Two hexadecimal digits for each part, after a number sign. -/
def ofHex? : List Char → Option Paint
  | ['#', a, b, c, d, e, f] => do
    return mixed (← hexPair? a b) (← hexPair? c d) (← hexPair? e f)
  | _ => none

def argument? (opening : String) (cs : List Char) : Option (List Char) :=
  let rest := cs.drop opening.length
  if opening.toList.isPrefixOf cs ∧ rest.getLast? = some ')' then some rest.dropLast else none

def ofDigits (cs : List Char) : Nat :=
  cs.foldl (fun n c => 10 * n + (digitValue? c).getD 0) 0

def ofNumber? (cs : List Char) : Option Paint := do
  let digits ← argument? "color(" cs
  if digits ≠ [] ∧ digits.length ≤ 3 ∧ digits.all Char.isDigit ∧ ofDigits digits ≤ 255 then
    some (numbered (ofDigits digits))
  else none

/-- Three decimal numbers. One that is left out is refused. -/
def ofParts (cs : List Char) : Outcome (Option Paint) :=
  match argument? "rgb(" cs with
  | none => .ok none
  | some list =>
    if list.all fun c => c = ',' || (digitValue? c).isSome then
      match list.splitOn ',' with
      | [red, green, blue] =>
        if [] ∈ [red, green, blue] then .error (.refused (.notWhole ""))
        else if ∀ part ∈ [red, green, blue], ofDigits part ≤ 255 then
          .ok (some (mixed (ofDigits red) (ofDigits green) (ofDigits blue)))
        else .ok none
      | _ => .ok none
    else .ok none

def read (word : String) : Outcome (Option Paint) :=
  match named? word <|> ofHex? word.toList <|> ofNumber? word.toList with
  | some paint => .ok (some paint)
  | none => ofParts word.toList

theorem hexValue?_lt {c : Char} {n : Nat} (h : hexValue? c = some n) : n < 16 := by
  unfold hexValue? at h
  split at h
  · next hc =>
    simp only [Char.isDigit, UInt32.le_iff_toNat_le, Bool.and_eq_true, decide_eq_true_eq] at hc
    have hle : c.toNat ≤ 57 := hc.2
    cases h
    omega
  · split at h
    · next hc =>
      have hle : c.toNat ≤ 102 := hc.2
      cases h
      omega
    · cases h

theorem hexPair?_lt {high low : Char} {n : Nat} (h : hexPair? high low = some n) : n < 256 := by
  obtain ⟨a, ha, h⟩ := Option.bind_eq_some_iff.mp h
  obtain ⟨b, hb, h⟩ := Option.bind_eq_some_iff.mp h
  have ha := hexValue?_lt ha
  have hb := hexValue?_lt hb
  cases h
  omega

theorem cubeStep_le {part : Nat} (h : part ≤ 255) : cubeStep part ≤ 5 := by
  unfold cubeStep
  split
  · have := (roundDiv_near part 95 (by decide)).1
    omega
  · have := (roundDiv_near (part - 55) 40 (by decide)).1
    omega

theorem map_cubeStep : [0, 95, 135, 175, 215, 255].map cubeStep = [0, 1, 2, 3, 4, 5] := by
  decide

end Paint

namespace Colour

def red : Colour := ⟨"red", .numbered 1⟩

def green : Colour := ⟨"green", .numbered 2⟩

def cyan : Colour := ⟨"cyan", .numbered 6⟩

def brightGreen : Colour := ⟨"bright_green", .numbered 10⟩

def read (word : List Char) : Outcome (Option Colour) := do
  let name := String.ofList (lower word)
  return (← Paint.read name).map (⟨name, ·⟩)

end Colour

end BehaviorPlan.Report
