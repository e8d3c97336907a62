import BehaviorPlan.Config
import BehaviorPlan.Graph.Order

/-! # Startup order

Behaviors start in an order in which dependencies come first. The order is computed, or a manual
one is checked; all problems of a manual order are reported together. -/
namespace BehaviorPlan.Startup

/-- Occurrences of names that were seen before. -/
def repeats (seen : List String) : List String → List String
  | [] => []
  | n :: ns => if n ∈ seen then n :: repeats seen ns else repeats (n :: seen) ns

def position? (order : List String) (name : String) : Option Nat :=
  order.findIdx? (· = name)

/-- The violation of an edge whose two ends are listed in the wrong order. -/
def violation? (order : List String) (edge : String × String) : Option OrderViolation :=
  match position? order edge.1, position? order edge.2 with
  | some p, some q => if p ≤ q then some ⟨edge.1, p, edge.2, q⟩ else none
  | _, _ => none

def orderProblems (g : Graph) (order : List String) : OrderProblems :=
  { missing := g.nodes.filter (· ∉ order)
    unknown := (order.filter (· ∉ g.nodes)).eraseDups
    duplicates := (repeats [] (order.filter (· ∈ g.nodes))).eraseDups
    violations := g.edges.filterMap (violation? order) }

def checkManual (order : List String) (behaviors : List Behavior) (graph : Option Graph := none) :
    Outcome Unit := do
  let g ← Graph.matching behaviors graph
  let problems := orderProblems g order
  if problems.isEmpty then .ok () else .error (.misordered problems)

def order (settings : StartupSettings) (behaviors : List Behavior) (graph : Option Graph := none) :
    Outcome (List String) := do
  if settings.automaticOrder then
    (← Graph.matching behaviors graph).startupOrder
  else
    checkManual settings.manualOrder behaviors graph
    return settings.manualOrder

theorem mem_missing_orderProblems (g : Graph) (order : List String) (name : String) :
    name ∈ (orderProblems g order).missing ↔ name ∈ g.nodes ∧ name ∉ order := by
  simp [orderProblems]

end BehaviorPlan.Startup
