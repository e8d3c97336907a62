import BehaviorPlan.Pipeline

/-! # The plain text report

Four sections between rules: findings on the declarations, the dependency analysis, findings on
generated code, and the status with next steps. -/
namespace BehaviorPlan.Report

def shown (options : ReportOptions) (group : List Finding) : List Finding :=
  match options.maxFindings with
  | some limit => group.take limit.toNat
  | none => group

def hidden (options : ReportOptions) (group : List Finding) : Nat :=
  group.length - (shown options group).length

namespace Plain

def rule (c : Char) : String :=
  String.ofList (List.replicate 70 c)

def sectionLines (title : String) : List String :=
  ["", rule '-', title, rule '-']

def findingLines (options : ReportOptions) (f : Finding) : List String :=
  s!"  [{f.severity.label}] {f.subject}: {f.message}" ::
    (if options.suggestions then
      (present? f.suggestion).toList.map fun s => s!"    Suggestion: {s}" else [])

/-- A group of findings: its size, the findings shown, and the number of hidden ones. -/
def groupLines (options : ReportOptions) (group : Category × List Finding) : List String :=
  ["", s!"{group.1.label} ({group.2.length}):"] ++
    (shown options group.2).flatMap (findingLines options) ++
    (if 0 < hidden options group.2 then [s!"  ... and {hidden options group.2} more"] else [])

def findingsLines (options : ReportOptions) (findings : List Finding) : List String :=
  (groupByCategory findings).flatMap (groupLines options)

def structuralLines (options : ReportOptions) (r : Run) : List String :=
  sectionLines "Phase 1: Structural Validation" ++
    [s!"  Behaviors: {r.partition.behaviors.length}",
      s!"  Shared functions: {r.partition.sharedFunctions.length}"] ++
    (if r.structuralFindings = [] then ["  No structural issues found"]
      else findingsLines options r.structuralFindings)

/-- Names with commas, or a dash if there are none. -/
def nameList (names : List String) : String :=
  let text := ", ".intercalate names
  if text = "" then "-" else text

def cycleLines (options : ReportOptions) (c : Cycle) : List String :=
  s!"  [{c.grade.label}] {c.path}" ::
    (if options.suggestions then c.suggestions.map fun s => s!"    - {s}" else [])

def analysisLines (options : ReportOptions) (a : Analysis) (order : List String) : List String :=
  sectionLines "Dependency Analysis" ++
    [s!"  Behaviors: {a.behaviorCount}",
      s!"  Dependencies: {a.dependencyCount}",
      s!"  Roots: {nameList a.roots}",
      s!"  Leaves: {nameList a.leaves}",
      s!"  Max depth: {a.metrics.maxDepth}",
      s!"  Avg dependencies: {a.metrics.averageDependencies.rounded}",
      s!"  Coupling factor: {a.metrics.coupling.rounded}",
      s!"  Cohesion score: {a.metrics.cohesion.rounded}"] ++
    (if order = [] then [] else [s!"  Initialization order: {arrows order}"]) ++
    (if a.cycles = [] then []
      else ["", s!"Circular dependencies ({a.cycles.length}):"] ++
        a.cycles.flatMap (cycleLines options)) ++
    (if options.verbose then a.chains.map fun c => s!"  Chain: {arrows c}" else [])

def codeLines (options : ReportOptions) (r : Run) : List String :=
  sectionLines "Phase 2: Generated Code Validation" ++
    (if r.issues = [] then ["  No generated code issues found"]
      else findingsLines options r.issues)

def listing (heading : String) (lines : List String) : List String :=
  if lines = [] then [] else ["", heading] ++ lines

def statusLines (v : Verdict) : List String :=
  sectionLines s!"Overall Status: {v.status}" ++
    [s!"  Errors: {v.count .error}", s!"  Warnings: {v.count .warning}",
      s!"  Info: {v.count .info}"] ++
    listing "Next steps:" (v.nextSteps.zipIdx.map fun (s, i) => s!"  {i + 1}. {s}") ++
    listing "Recommendations:" (v.recommendations.map fun s => s!"  - {s}")

def lines (options : ReportOptions) (r : Run) : List String :=
  [rule '=', "Multi-Behavior Validation Report", rule '='] ++
    structuralLines options r ++
    ((r.analysis.map fun a => analysisLines options a r.order).getD []) ++
    codeLines options r ++
    statusLines r.verdict ++
    ["", rule '=', "Result: " ++ (if r.passed then "PASSED" else "FAILED"), rule '=']

def render (options : ReportOptions) (r : Run) : String :=
  Text.unlines (lines options r)

end Plain

theorem shown_length_add_hidden (options : ReportOptions) (group : List Finding) :
    (shown options group).length + hidden options group = group.length := by
  unfold hidden shown
  cases options.maxFindings with
  | none => simp
  | some limit =>
    simp only [List.length_take]
    omega

end BehaviorPlan.Report
