import BehaviorPlan.Report.Colour
import BehaviorPlan.Text.Character

/-! # Styles of console text

A style sets attributes, such as bold, on or off and may choose a colour for the text and one for
its background. Styles are laid over each other: what the upper one leaves open is taken from the
lower one. A style is described in words, which are read from left to right. -/
namespace BehaviorPlan.Report

open Text

inductive Attribute where
  | bold | dim | italic | underline | blink | fastBlink | reverse | conceal | strike
  | doubleUnderline | frame | encircle | overline
  deriving DecidableEq, Repr

namespace Attribute

def all : List Attribute :=
  [bold, dim, italic, underline, blink, fastBlink, reverse, conceal, strike, doubleUnderline, frame,
    encircle, overline]

def code : Attribute → Nat
  | bold => 1
  | dim => 2
  | italic => 3
  | underline => 4
  | blink => 5
  | fastBlink => 6
  | reverse => 7
  | conceal => 8
  | strike => 9
  | doubleUnderline => 21
  | frame => 51
  | encircle => 52
  | overline => 53

def name : Attribute → String
  | bold => "bold"
  | dim => "dim"
  | italic => "italic"
  | underline => "underline"
  | blink => "blink"
  | fastBlink => "blink2"
  | reverse => "reverse"
  | conceal => "conceal"
  | strike => "strike"
  | doubleUnderline => "underline2"
  | frame => "frame"
  | encircle => "encircle"
  | overline => "overline"

def shortNames : List (String × Attribute) :=
  [("b", bold), ("d", dim), ("i", italic), ("u", underline), ("r", reverse), ("c", conceal),
    ("s", strike), ("uu", doubleUnderline), ("o", overline)]

def named? (word : String) : Option Attribute :=
  (all.find? fun a => a.name == word) <|> shortNames.lookup word

theorem mem_all (a : Attribute) : a ∈ all := by
  cases a <;> decide

theorem named?_name (a : Attribute) : named? a.name = some a := by
  cases a <;> decide +kernel

end Attribute

structure Style where
  on : List Attribute := []
  off : List Attribute := []
  foreground : Option Colour := none
  background : Option Colour := none
  deriving DecidableEq, Repr

namespace Style

def plain : Style := {}

/-- Attributes are kept in one order, so that a style has one form. -/
def set (s : Style) (a : Attribute) (value : Bool) : Style :=
  { s with
    on := Attribute.all.filter fun b => if b = a then value else b ∈ s.on
    off := Attribute.all.filter fun b => if b = a then !value else b ∈ s.off }

def layeredOn (upper lower : Style) : Style :=
  let layered := upper.off.foldl (·.set · false) (upper.on.foldl (·.set · true) lower)
  { layered with
    foreground := upper.foreground.or lower.foreground
    background := upper.background.or lower.background }

def codes (s : Style) : List Nat :=
  (Attribute.all.filter (· ∈ s.on)).map Attribute.code ++
    s.foreground.elim [] (·.paint.codes 30) ++ s.background.elim [] (·.paint.codes 40)

def description (s : Style) : String :=
  let attributes := Attribute.all.filterMap fun a =>
    if a ∈ s.on then some a.name else if a ∈ s.off then some ("not " ++ a.name) else none
  let colours := (s.foreground.map (·.name)).toList ++
    (s.background.map fun c => "on " ++ c.name).toList
  if attributes ++ colours = [] then "none" else " ".intercalate (attributes ++ colours)

def readWord (s : Style) (word : List Char) : Outcome (Option Style) :=
  match Attribute.named? (String.ofList (lower word)) with
  | some a => .ok (some (s.set a true))
  | none => do return (← Colour.read word).map fun c => { s with foreground := some c }

/-- Adds what the words say: attributes and colours, `not` before an attribute and `on` before a
colour of the background. -/
def readWords (s : Style) : List (List Char) → Outcome (Option Style)
  | [] => .ok (some s)
  | [word] => s.readWord word
  | word :: next :: rest => do
    let keyword := String.ofList (lower word)
    if keyword = "not" then
      match Attribute.named? (String.ofList next) with
      | some a => (s.set a false).readWords rest
      | none => return none
    else if keyword = "on" then
      match ← Colour.read next with
      | some c => readWords { s with background := some c } rest
      | none => return none
    else
      match ← s.readWord word with
      | some s => s.readWords (next :: rest)
      | none => return none

def read (cs : List Char) : Outcome (Option Style) :=
  if trim cs = "none".toList then .ok (some plain)
  else plain.readWords ((cs.splitOnP isBlank).filter (· ≠ []))

theorem plain_layeredOn (s : Style) : plain.layeredOn s = s := by
  simp [layeredOn, plain]

theorem codes_plain : plain.codes = [] := by
  decide

end Style

end BehaviorPlan.Report
