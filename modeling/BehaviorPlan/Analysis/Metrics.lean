import BehaviorPlan.Graph.Chain
import BehaviorPlan.Graph.Cycles

/-! # Metrics of a graph

Coupling is the share of all possible edges that exist, and cohesion what is left of one. -/
namespace BehaviorPlan

/-- Numbers in which metrics are computed. The analysis computes in doubles. -/
class Arithmetic (α : Type) where
  ratio : Nat → Nat → α
  sub : α → α → α
  lt : α → α → Bool

instance : Arithmetic Double where
  ratio := Double.ofRatio false
  sub := Double.sub
  lt a b := (Quantity.real a).lt (.real b)

structure Metrics where
  maxDepth : Int
  averageDependencies : Quantity
  cycleCount : Int
  coupling : Quantity
  cohesion : Quantity
  deriving DecidableEq, Repr

namespace Metrics

instance : Checked Metrics where
  defect? m :=
    (((defectIf (decide (m.maxDepth < 0)) (.below "max_depth" 0 m.maxDepth)).or
      (defectIf (m.averageDependencies.lt .zero) (.negative "avg_dependencies_per_unit"))).or
      ((defectIf (decide (m.cycleCount < 0)) (.negative "cyclomatic_complexity")).or
        (defectIf (m.coupling.lt .zero) (.negative "coupling_factor")))).or
      (defectIf (!m.cohesion.inUnitInterval) (.outsideUnitInterval "cohesion_score" m.cohesion))

def empty : Metrics := ⟨0, .ratio 0 1, 0, .ratio 0 1, .ratio 1 1⟩

section Quotients

variable {α : Type} [Arithmetic α]

/-- Edges by possible edges between `count` behaviors; none are possible below two. -/
def couplingOf (edgeCount count : Nat) : α :=
  if 1 < count then Arithmetic.ratio edgeCount (count * (count - 1)) else Arithmetic.ratio 0 1

def averageOf (edgeCount count : Nat) : α :=
  if count = 0 then Arithmetic.ratio 0 1 else Arithmetic.ratio edgeCount count

/-- Coupling above one counts as one. -/
def cohesionOf (coupling : α) : α :=
  let one : α := Arithmetic.ratio 1 1
  Arithmetic.sub one (if Arithmetic.lt one coupling then one else coupling)

end Quotients

end Metrics

/-- The metrics of a graph over `count` behaviors, its number of nodes if `count` is zero. Cycles
are counted unless their number is given. -/
def Graph.metrics (g : Graph) (count : Nat) (cycleCount : Option Int) : Outcome Metrics := do
  let count := if count = 0 then g.nodeCount else count
  let cycleCount := cycleCount.getD g.cycles.length
  let depth ← g.maxDepth cycleCount
  let coupling : Double := Metrics.couplingOf g.edgeCount count
  checked
    { maxDepth := depth
      averageDependencies := .real (Metrics.averageOf g.edgeCount count)
      cycleCount
      coupling := .real coupling
      cohesion := .real (Metrics.cohesionOf coupling) }

end BehaviorPlan
