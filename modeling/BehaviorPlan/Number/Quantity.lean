import BehaviorPlan.Number.Numeral

/-! # Quantities

A quantity is a whole number or a double. Whole numbers stay exact, also when they are compared
with doubles; nothing compares with the not-a-number. -/
namespace BehaviorPlan

inductive Quantity where
  | whole (n : Int)
  | real (d : Double)
  deriving DecidableEq, Repr

/-- Position of a quantity on the line extended by two infinities, in least double steps. -/
inductive Level where
  | least
  | steps (units : Int)
  | greatest
  deriving DecidableEq, Repr

def Level.le : Level → Level → Bool
  | least, _ | _, greatest => true
  | steps a, steps b => decide (a ≤ b)
  | _, _ => false

namespace Double

def level? : Double → Option Level
  | finite s u => some (.steps (if s then -(u : Int) else u))
  | infinite s => some (if s then .least else .greatest)
  | nan => none

def bounded? : Double → Option Double
  | infinite _ => none
  | d => some d

end Double

namespace Quantity

def level? : Quantity → Option Level
  | whole n => some (.steps (n * Double.one))
  | real d => d.level?

def le (a b : Quantity) : Bool :=
  match a.level?, b.level? with
  | some x, some y => x.le y
  | _, _ => false

def lt (a b : Quantity) : Bool :=
  match a.level?, b.level? with
  | some x, some y => !y.le x
  | _, _ => false

def zero : Quantity := whole 0

def inUnitInterval (q : Quantity) : Bool :=
  (whole 0).le q && q.le (whole 1)

def text : Quantity → String
  | whole n => toString n
  | real d => Numeral.ofDouble d

def rounded : Quantity → String
  | whole n => Numeral.fixed 2 (Double.ofInt n)
  | real d => Numeral.fixed 2 d

/-- The quantity as a double; none for a whole number beyond the range of doubles. -/
def toDouble? : Quantity → Option Double
  | whole n => (Double.ofInt n).bounded?
  | real d => some d

def ratio (num den : Nat) : Quantity :=
  real (Double.ofRatio false num den)

theorem lt_irrefl (a : Quantity) : a.lt a = false := by
  unfold lt
  cases h : a.level? with
  | none => rfl
  | some x => cases x <;> simp [Level.le]

/-- Between numbers, `lt` is the negation of the reversed `le`. -/
theorem lt_eq_not_le {a b : Quantity} {x y : Level} (ha : a.level? = some x)
    (hb : b.level? = some y) : a.lt b = !b.le a := by
  simp [lt, le, ha, hb]

end Quantity

end BehaviorPlan
