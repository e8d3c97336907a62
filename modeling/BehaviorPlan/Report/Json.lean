import BehaviorPlan.Pipeline
import BehaviorPlan.Report.JsonText

/-! # The JSON report

A run as one JSON value, for other tools to read. -/
namespace BehaviorPlan.Report.Json

open JsonValue

def call (c : Call) : JsonValue :=
  object [("target", text c.target), ("kind", text c.kind.label), ("origin", text c.origin.label),
    ("via", optionalText c.via)]

def behavior (b : Behavior) : JsonValue :=
  object [("name", text b.name), ("functions", texts b.memberNames), ("events", texts b.events),
    ("auto_sync", bool b.autoSync), ("calls", array (b.calls.map call))]

def cycle (c : Cycle) : JsonValue :=
  object [("cycle", texts c.behaviors), ("severity", text c.grade.label),
    ("description", text c.description), ("suggestions", texts c.suggestions)]

def metrics (m : Metrics) : JsonValue :=
  object [("max_depth", int m.maxDepth),
    ("avg_dependencies_per_unit", number m.averageDependencies),
    ("cyclomatic_complexity", int m.cycleCount), ("coupling_factor", number m.coupling),
    ("cohesion_score", number m.cohesion)]

def advisory (a : Advisory) : JsonValue :=
  object [("kind", text a.kind.label), ("severity", text a.severity.label),
    ("message", text a.message), ("affected", texts a.affected)]

def analysis (a : Analysis) : JsonValue :=
  object [("total_units", int a.behaviorCount), ("total_dependencies", int a.dependencyCount),
    ("root_units", texts a.roots), ("leaf_units", texts a.leaves),
    ("circular_dependencies", array (a.cycles.map cycle)),
    ("dependency_chains", array (a.chains.map texts)),
    ("complexity_metrics", metrics a.metrics),
    ("recommended_initialization_order", texts a.order), ("unordered_units", texts a.unordered),
    ("warnings", array (a.advisories.map advisory))]

def finding (f : Finding) : JsonValue :=
  object [("category", text f.category.label), ("severity", text f.severity.label),
    ("message", text f.message), ("unit", optionalText f.behavior),
    ("function", optionalText f.function), ("rule", optionalText f.rule),
    ("line", (f.line.map int).getD null), ("suggestion", optionalText f.suggestion)]

def hint (h : OrderHint) : JsonValue :=
  object [("script_name", text h.script), ("priority", int h.priority)]

def summary (r : Run) : JsonValue :=
  object [("unit_count", nat r.partition.behaviors.length),
    ("shared_function_count", nat r.partition.sharedFunctions.length),
    ("error_count", nat (r.verdict.count .error)),
    ("warning_count", nat (r.verdict.count .warning)),
    ("info_count", nat (r.verdict.count .info))]

def run (r : Run) : JsonValue :=
  object [("passed", bool r.passed), ("status", text r.verdict.status), ("summary", summary r),
    ("units", array (r.partition.behaviors.map behavior)),
    ("shared_functions", texts (r.partition.sharedFunctions.map (·.name))),
    ("initialization_order", texts r.order),
    ("dependency_analysis", (r.analysis.map analysis).getD null),
    ("coordinator", optionalText (r.coordinator.map (·.name))),
    ("execution_order_hints", array (r.hints.map hint)),
    ("findings", array (r.verdict.findings.map finding)),
    ("recommendations", texts r.verdict.recommendations),
    ("next_steps", texts r.verdict.nextSteps)]

/-- The report. A negative indentation is one of no blanks; without any it is a single line. -/
def render (indent : Option Int) (r : Run) : String :=
  write (indent.map Int.toNat) 0 (run r) ++ "\n"

end BehaviorPlan.Report.Json
