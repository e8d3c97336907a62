import BehaviorPlan.Behavior
import BehaviorPlan.Table

/-! # Dependency graphs

The nodes of a dependency graph are behavior names in order of declaration. An edge leads from a
behavior to one that it depends on; the graph keeps it on both sides. Calls to behaviors that do
not exist are kept apart. -/
namespace BehaviorPlan

/-- A call whose target is no behavior. -/
structure UnknownTarget where
  source : String
  target : String
  kind : CallKind
  deriving DecidableEq, Repr

structure Graph where
  nodes : List String
  forward : Table (List String)
  reverse : Table (List String)
  unknownTargets : List UnknownTarget := []
  deriving DecidableEq, Repr

namespace Graph

def dependencies (g : Graph) (node : String) : List String :=
  (g.forward.get? node).getD []

def dependents (g : Graph) (node : String) : List String :=
  (g.reverse.get? node).getD []

def forwardDefect? (g : Graph) (entry : String × List String) : Option Defect :=
  if entry.1 ∉ g.nodes then some (.strayForwardKey entry.1)
  else entry.2.findSome? fun d =>
    if d ∉ g.nodes then some (.strayDependency d entry.1)
    else if entry.1 ∉ g.dependents d then some (.oneSidedForward entry.1 d)
    else none

def reverseDefect? (g : Graph) (entry : String × List String) : Option Defect :=
  if entry.1 ∉ g.nodes then some (.strayReverseKey entry.1)
  else entry.2.findSome? fun d =>
    if d ∉ g.nodes then some (.strayDependent d entry.1)
    else if entry.1 ∉ g.dependencies d then some (.oneSidedReverse d entry.1)
    else none

instance : Checked Graph where
  defect? g :=
    ((defectIf (decide (¬ g.nodes.Nodup)) .repeatedNodes).or
      (g.forward.entries.findSome? g.forwardDefect?)).or
      (g.reverse.entries.findSome? g.reverseDefect?)

def empty : Graph := ⟨[], .empty, .empty, []⟩

structure Sides where
  forward : Table (List String)
  reverse : Table (List String)
  deriving DecidableEq, Repr

namespace Sides

def bare (nodes : List String) : Sides :=
  ⟨.ofKeys nodes.eraseDups fun _ => [], .ofKeys nodes.eraseDups fun _ => []⟩

/-- Enters an edge on both sides, unless it was entered before. -/
def link (s : Sides) (edge : String × String) : Sides :=
  if edge.2 ∈ (s.forward.get? edge.1).getD [] then s
  else ⟨s.forward.push edge.1 edge.2, s.reverse.push edge.2 edge.1⟩

end Sides

/-- The graph of the given edges. Both ends of an edge have to be nodes. -/
def ofEdges (nodes : List String) (edges : List (String × String))
    (unknownTargets : List UnknownTarget := []) : Outcome Graph :=
  let sides := edges.foldl Sides.link (.bare nodes)
  checked { nodes, forward := sides.forward, reverse := sides.reverse, unknownTargets }

/-- What calls come to: edges, and calls that lead nowhere. -/
structure Survey where
  edges : List (String × String) := []
  unknownTargets : List UnknownTarget := []
  deriving DecidableEq, Repr

namespace Survey

/-- A direct call of a known behavior is an edge; a call of an unknown one is noted, once. -/
def note (names : List String) (caller : String) (s : Survey) (c : Call) : Survey :=
  if c.target ∈ names then
    if c.kind = .direct then { s with edges := s.edges ++ [(caller, c.target)] } else s
  else if ⟨caller, c.target, c.kind⟩ ∈ s.unknownTargets then s
  else { s with unknownTargets := s.unknownTargets ++ [⟨caller, c.target, c.kind⟩] }

def ofBehaviors (behaviors : List Behavior) : Survey :=
  behaviors.foldl (fun s b => b.calls.foldl (note (behaviors.map (·.name)) b.name) s) {}

end Survey

def ofBehaviors (behaviors : List Behavior) : Outcome Graph :=
  let survey := Survey.ofBehaviors behaviors
  ofEdges (behaviors.map (·.name)) survey.edges survey.unknownTargets

/-- The given graph if its nodes are the behaviors; without one, the graph of their calls. -/
def matching (behaviors : List Behavior) : Option Graph → Outcome Graph
  | none => ofBehaviors behaviors
  | some g =>
    let names := behaviors.map (·.name)
    if g.nodes = names then .ok g else .error (.refused (.foreignGraph g.nodes names))

def hasEdge (g : Graph) (source target : String) : Bool :=
  target ∈ g.dependencies source

def hasNode (g : Graph) (node : String) : Bool :=
  node ∈ g.nodes

/-- All edges, by node and then in the order of the node's dependencies. -/
def edges (g : Graph) : List (String × String) :=
  g.nodes.flatMap fun n => (g.dependencies n).map fun d => (n, d)

def edgeCount (g : Graph) : Nat :=
  g.forward.values.flatten.length

def nodeCount (g : Graph) : Nat :=
  g.nodes.length

def roots (g : Graph) : List String :=
  g.nodes.filter fun n => (g.dependencies n).isEmpty

def leaves (g : Graph) : List String :=
  g.nodes.filter fun n => (g.dependents n).isEmpty

def isolated (g : Graph) : List String :=
  g.nodes.filter fun n => (g.dependencies n).isEmpty && (g.dependents n).isEmpty

/-- The number of a node. -/
def number (g : Graph) (node : String) : Outcome Nat :=
  match g.nodes.idxOf? node with
  | some i => .ok i
  | none => .error (.unknownName node)

/-- The neighbours of every node by their numbers, as the searches visit them. -/
def numbered (g : Graph) (neighbours : String → List String) : Outcome (List (List Nat)) :=
  g.nodes.mapM fun n => (neighbours n).mapM g.number

theorem hasEdge_iff (g : Graph) (source target : String) :
    g.hasEdge source target = true ↔ target ∈ g.dependencies source := by
  simp [hasEdge]

theorem mem_edges (g : Graph) (source target : String) :
    (source, target) ∈ g.edges ↔ source ∈ g.nodes ∧ target ∈ g.dependencies source := by
  simp [edges]

theorem mem_isolated (g : Graph) (node : String) :
    node ∈ g.isolated ↔ node ∈ g.roots ∧ node ∈ g.leaves := by
  simp only [isolated, roots, leaves, List.mem_filter, Bool.and_eq_true]
  exact ⟨fun ⟨h, a, b⟩ => ⟨⟨h, a⟩, h, b⟩, fun ⟨⟨h, a⟩, _, b⟩ => ⟨h, a, b⟩⟩

end Graph

end BehaviorPlan
