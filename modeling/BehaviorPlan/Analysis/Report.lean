import BehaviorPlan.Analysis.Metrics
import BehaviorPlan.Config
import BehaviorPlan.Finding
import BehaviorPlan.Graph.Order

/-! # Dependency analysis

The analysis of a set of behaviors: roots and leaves, cycles with advice on how to break them,
the recommended startup order, the longest chains, the metrics, and advisories on everything
that is fatal or doubtful. -/
namespace BehaviorPlan

/-- A cycle is critical if one of its edges is declared, and high if all are inferred. -/
inductive CycleGrade where
  | critical
  | high
  deriving DecidableEq, Repr

def CycleGrade.all : List CycleGrade := [critical, high]

def CycleGrade.label : CycleGrade → String
  | critical => "CRITICAL"
  | high => "HIGH"

structure Cycle where
  /-- The behaviors on the way, the first one not repeated at the end. -/
  behaviors : List String
  grade : CycleGrade
  description : String
  suggestions : List String := []
  deriving DecidableEq, Repr

def arrows (names : List String) : String :=
  " -> ".intercalate names

namespace Cycle

instance : Checked Cycle where
  defect? c := (defectIf c.behaviors.isEmpty (.blank "cycle")).or
    (blank? "description" c.description)

def closedPath (behaviors : List String) : String :=
  arrows (behaviors ++ behaviors.take 1)

def path (c : Cycle) : String :=
  closedPath c.behaviors

end Cycle

inductive AdvisoryKind where
  | circularDependency
  | deepDependencyChain
  | highCoupling
  | isolatedUnit
  | missingDependency
  | excessiveDependencies
  deriving DecidableEq, Repr

def AdvisoryKind.all : List AdvisoryKind :=
  [circularDependency, deepDependencyChain, highCoupling, isolatedUnit, missingDependency,
    excessiveDependencies]

def AdvisoryKind.label : AdvisoryKind → String
  | circularDependency => "CIRCULAR_DEPENDENCY"
  | deepDependencyChain => "DEEP_DEPENDENCY_CHAIN"
  | highCoupling => "HIGH_COUPLING"
  | isolatedUnit => "ISOLATED_UNIT"
  | missingDependency => "MISSING_DEPENDENCY"
  | excessiveDependencies => "EXCESSIVE_DEPENDENCIES"

structure Advisory where
  kind : AdvisoryKind
  severity : Severity
  message : String
  affected : List String := []
  suggestions : List String := []
  deriving DecidableEq, Repr

instance : Checked Advisory where
  defect? a := blank? "message" a.message

structure Analysis where
  behaviorCount : Int
  dependencyCount : Int
  roots : List String
  leaves : List String
  cycles : List Cycle
  chains : List (List String)
  metrics : Metrics
  /-- Startup order; only a part of the behaviors if there are cycles. -/
  order : List String
  unordered : List String := []
  advisories : List Advisory := []
  unknownTargets : List UnknownTarget := []
  deriving DecidableEq, Repr

namespace Analysis

instance : Checked Analysis where
  defect? a :=
    ((defectIf (decide (a.behaviorCount < 0)) (.negative "total_units")).or
      (defectIf (decide (a.dependencyCount < 0)) (.negative "total_dependencies"))).or
      (let covered := a.order.length + a.unordered.length
       defectIf (decide ((covered : Int) ≠ a.behaviorCount))
         (.orderCovers covered a.behaviorCount))

def hasCycles (a : Analysis) : Bool :=
  !a.cycles.isEmpty

def blocking (a : Analysis) : Bool :=
  a.advisories.any (·.severity = .error)

def advisoriesOf (a : Analysis) (kind : AdvisoryKind) : List Advisory :=
  a.advisories.filter (·.kind = kind)

/-- Each behavior on a cycle with the next one, the last with the first. -/
def links (cycle : List String) : List (String × String) :=
  cycle.zip (cycle.drop 1 ++ cycle.take 1)

/-- The first of two behaviors declares that it depends on the second. -/
def declares (behaviors : List Behavior) (link : String × String) : Outcome Bool := do
  let b ← Behavior.named behaviors link.1
  return (b.callsTo link.2).any fun c => c.kind = .direct ∧ c.origin = .declared

def cycleSuggestions (sharedRuntimeName : String) (cycle : List String) : List String :=
  (match cycle with
    | [a, b] =>
      [s!"Consider merging '{a}' and '{b}' into a single behavior if they are tightly coupled",
        "Use events instead of direct calls for one direction"]
    | _ =>
      ["Break down complex behaviors into smaller, more focused components",
        "Introduce a coordinator or move shared code to SharedRuntime"]) ++
    ["Use initialization phases to establish proper startup order",
      s!"Move shared state to a centralized manager or {sharedRuntimeName}"]

def describe (config : Config) (behaviors : List Behavior) (cycle : List String) :
    Outcome Cycle := do
  let declared := (← (links cycle).mapM (declares behaviors)).any id
  checked
    { behaviors := cycle
      grade := if declared then .critical else .high
      description := "Circular dependency detected: " ++ Cycle.closedPath cycle ++
        (if declared then " (involves explicit dependencies)" else "") ++
        ". This creates an initialization deadlock where behaviors cannot be properly ordered."
      suggestions := cycleSuggestions config.sharedRuntimeName cycle }

def cycleAdvisory (c : Cycle) : Advisory :=
  { kind := .circularDependency
    severity := .error
    message := "Circular dependency detected: " ++ c.path
    affected := c.behaviors
    suggestions := c.suggestions }

def unknownTargetAdvisory (u : UnknownTarget) : Advisory :=
  let direct := u.kind = .direct
  let verb := if direct then "depends on" else "sends events to"
  { kind := .missingDependency
    severity := if direct then .error else .warning
    message := s!"Behavior '{u.source}' {verb} undefined behavior '{u.target}'"
    affected := [u.source, u.target]
    suggestions :=
      [s!"Ensure behavior '{u.target}' is properly defined", "Check for typos in behavior names"] }

def chainAdvisory (chain : List String) : Advisory :=
  { kind := .deepDependencyChain
    severity := .warning
    message := s!"Deep dependency chain detected ({chain.length} levels): {arrows chain}"
    affected := chain
    suggestions :=
      ["Consider flattening the dependency structure",
        "Use mediator pattern for complex interactions"] }

def couplingAdvisory (g : Graph) (coupling : Quantity) : Advisory :=
  { kind := .highCoupling
    severity := .warning
    message := s!"High coupling detected (factor: {coupling.rounded})"
    affected := g.nodes
    suggestions :=
      ["Reduce direct dependencies between behaviors", "Use event-driven communication",
        "Extract shared functionality"] }

def excessAdvisory (node : String) (count : Nat) : Advisory :=
  { kind := .excessiveDependencies
    severity := .warning
    message := s!"Behavior '{node}' has {count} dependencies, which may indicate tight coupling"
    affected := [node]
    suggestions :=
      ["Consider breaking down this behavior into smaller components",
        "Use dependency injection to reduce direct coupling"] }

def isolationAdvisory (node : String) : Advisory :=
  { kind := .isolatedUnit
    severity := .info
    message := s!"Behavior '{node}' has no dependencies or dependents"
    affected := [node]
    suggestions :=
      ["Consider if this behavior is needed", "Integrate with other behaviors if appropriate"] }

def adviceOn (config : Config) (g : Graph) (cycles : List Cycle) (chains : List (List String))
    (metrics : Metrics) : List Advisory :=
  cycles.map cycleAdvisory ++ g.unknownTargets.map unknownTargetAdvisory ++
    (chains.filter fun c => config.deepChainThreshold < (c.length : Int)).map chainAdvisory ++
    (if metrics.coupling.le config.couplingThreshold then []
      else [couplingAdvisory g metrics.coupling]) ++
    (g.nodes.filter fun n => config.maxDirectDependencies < ((g.dependencies n).length : Int)).map
      (fun n => excessAdvisory n (g.dependencies n).length) ++
    g.isolated.map isolationAdvisory

def ofGraph (config : Config) (behaviors : List Behavior) (g : Graph) : Outcome Analysis := do
  let _ ← g.numbered g.dependencies
  let cycles ← g.cycles.mapM (describe config behaviors)
  let _ ← g.numbered g.dependents
  let settlement := g.settle
  let metrics ← g.metrics behaviors.length (some cycles.length)
  let chains ← g.longestChains cycles.length config.maxChains
  let advisories ← checkedAll (adviceOn config g cycles chains metrics)
  checked
    { behaviorCount := g.nodeCount
      dependencyCount := g.edgeCount
      roots := g.roots
      leaves := g.leaves
      cycles
      chains
      metrics
      order := settlement.ordered
      unordered := settlement.remaining
      advisories
      unknownTargets := g.unknownTargets }

/-- The analysis of behaviors. A graph that is given has to have them as its nodes. -/
def ofBehaviors (config : Config) (behaviors : List Behavior) (graph : Option Graph := none) :
    Outcome Analysis := do
  ofGraph config behaviors (← Graph.matching behaviors graph)

end Analysis

end BehaviorPlan
