import BehaviorPlan.Graph.Basic

/-! # Ordering behaviors

Behaviors are taken one after the other, each time the first declared one that waits for nothing
more. What is left when none can be taken depends on a cycle. -/
namespace BehaviorPlan.Graph

structure Settlement where
  ordered : List String
  remaining : List String
  deriving DecidableEq, Repr

/-- A behavior and the number of its dependencies that are not ordered yet. -/
structure Waiting where
  node : String
  count : Nat
  deriving DecidableEq, Repr

def Waiting.isReady (w : Waiting) : Bool :=
  w.count == 0

/-- One dependency less for every time the behavior stands among the dependents. -/
def Waiting.release (dependents : List String) (w : Waiting) : Waiting :=
  ⟨w.node, w.count - dependents.count w.node⟩

def settleFrom (g : Graph) (waiting : List Waiting) : Settlement :=
  match _h : waiting.find? Waiting.isReady with
  | none => ⟨[], waiting.map (·.node)⟩
  | some w =>
    let rest := settleFrom g
      ((waiting.eraseP Waiting.isReady).map (Waiting.release (g.dependents w.node)))
    ⟨w.node :: rest.ordered, rest.remaining⟩
termination_by waiting.length
decreasing_by
  have hm := List.mem_of_find?_eq_some _h
  rw [List.length_map, List.length_eraseP_of_mem hm (List.find?_some _h)]
  exact Nat.sub_lt (List.length_pos_of_mem hm) Nat.one_pos

def waitingList (g : Graph) : List Waiting :=
  g.nodes.map fun n => ⟨n, (g.dependencies n).length⟩

def settle (g : Graph) : Settlement :=
  settleFrom g g.waitingList

/-- All behaviors, dependencies first; fails with those that cannot be ordered. -/
def startupOrder (g : Graph) : Outcome (List String) := do
  let _ ← g.numbered g.dependents
  let s := g.settle
  if s.remaining = [] then .ok s.ordered else .error (.cyclic s.remaining)

theorem length_settleFrom (g : Graph) (waiting : List Waiting) :
    (g.settleFrom waiting).ordered.length + (g.settleFrom waiting).remaining.length =
      waiting.length := by
  fun_induction settleFrom g waiting with
  | case1 => simp
  | case2 waiting w _h rest ih =>
    have hm := List.mem_of_find?_eq_some _h
    have hp := List.length_pos_of_mem hm
    have he := List.length_eraseP_of_mem hm (List.find?_some _h)
    simp only [List.length_map] at ih
    simp only [List.length_cons, rest]
    omega

theorem length_settle (g : Graph) :
    g.settle.ordered.length + g.settle.remaining.length = g.nodeCount := by
  simpa [settle, waitingList, nodeCount] using length_settleFrom g g.waitingList

end BehaviorPlan.Graph
