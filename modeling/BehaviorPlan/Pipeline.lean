import BehaviorPlan.Code.Rule
import BehaviorPlan.Partition.Basic
import BehaviorPlan.Startup.Coordinator
import BehaviorPlan.Startup.Order
import BehaviorPlan.Verdict

/-! # The whole run

Functions are partitioned, the behaviors analysed and ordered, the startup code is generated, all
generated code is checked, and everything found is merged into a verdict. A run stops early if
the partition blocks; nothing is generated if there are cycles or the order is refused. -/
namespace BehaviorPlan

structure Run where
  partition : Partition
  graph : Option Graph := none
  analysis : Option Analysis := none
  order : List String := []
  coordinator : Option Coordinator := none
  hints : List OrderHint := []
  editorScript : Option String := none
  issues : List Finding := []
  verdict : Verdict
  deriving DecidableEq, Repr

namespace Run

def passed (r : Run) : Bool :=
  r.verdict.passed

def orderedBehaviors (r : Run) : Outcome (List Behavior) :=
  r.order.mapM (Behavior.named r.partition.behaviors)

/-- Findings on everything but generated code. -/
def structuralFindings (r : Run) : List Finding :=
  r.verdict.findings.filter (·.category ≠ .generatedCodeIssue)

end Run

namespace Pipeline

def orderFinding (message : String) : Finding :=
  { category := .orderingViolation
    severity := .error
    message
    suggestion := some "Fix manual_order or enable auto_determine_order" }

/-- A startup order, or findings on why the manual order is refused. -/
structure OrderStage where
  order : List String := []
  findings : List Finding := []
  deriving DecidableEq, Repr

/-- The order that the settings ask for. A refused manual order is reported and not raised. -/
def orderOrFindings (settings : StartupSettings) (behaviors : List Behavior) (g : Graph) :
    Outcome OrderStage :=
  match Startup.order settings behaviors (some g) with
  | .ok order => .ok { order }
  | .error (.misordered problems) => do
    return { findings := ← checkedAll (problems.messages.map orderFinding) }
  | .error failure => .error failure

def orderStage (settings : StartupSettings) (behaviors : List Behavior) (g : Graph)
    (analysis : Analysis) : Outcome OrderStage :=
  if analysis.hasCycles then .ok {} else orderOrFindings settings behaviors g

structure StartupCode where
  coordinator : Option Coordinator := none
  hints : List OrderHint := []
  editorScript : Option String := none
  deriving DecidableEq, Repr

/-- Startup code for an order; nothing without one, or if the settings ask for none. -/
def startupCode (settings : StartupSettings) (order : List String) (behaviors : List Behavior) :
    Outcome StartupCode :=
  if order ≠ [] ∧ settings.generateCoordinator then do
    let coordinator ← Startup.synthesize settings order behaviors
    let hints := Startup.hints settings order
    let script :=
      if hints = [] then none else some (Startup.editorScript hints settings.codeNamespace)
    return { coordinator := some coordinator, hints, editorScript := script }
  else .ok {}

def runPartition (config : Config) (rules : List Rule) (partition : Partition)
    (classes : List ClassSource) : Outcome Run := do
  let behaviors := partition.behaviors
  let graph ← Graph.ofBehaviors behaviors
  let analysis ← Analysis.ofBehaviors config behaviors (some graph)
  let ordered ← orderStage config.startup behaviors graph analysis
  let code ← startupCode config.startup ordered.order behaviors
  let sources := classes ++ (code.coordinator.map (·.source)).toList
  let issues ← checkedAll (Code.findings rules sources)
  let verdict ← Verdict.decide partition.validation (some analysis) issues ordered.findings
    config.sharedRuntimeName
  return {
    partition
    graph := some graph
    analysis := some analysis
    order := ordered.order
    coordinator := code.coordinator
    hints := code.hints
    editorScript := code.editorScript
    issues
    verdict }

def run (config : Config) (rules : List Rule) (functions : List FunctionDecl)
    (classes : List ClassSource) : Outcome Run := do
  let partition ← Partition.ofFunctions config functions
  if partition.blocking then
    let verdict ← Verdict.decide partition.validation none [] [] config.sharedRuntimeName
    return { partition, verdict }
  else runPartition config rules partition classes

end Pipeline

end BehaviorPlan
