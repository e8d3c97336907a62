import BehaviorPlan.Analysis.Report

/-! # The verdict

All findings are merged into one decision: findings on the declarations, cycles, unknown targets,
problems of the startup order, and findings on generated code. An error or a cycle blocks. -/
namespace BehaviorPlan

structure Verdict where
  findings : List Finding
  cycles : List Cycle
  blocking : Bool
  recommendations : List String := []
  nextSteps : List String := []
  deriving DecidableEq, Repr

namespace Verdict

instance : Checked Verdict where
  defect? v :=
    (defectIf (v.findings.any Finding.isError && !v.blocking) .passingWithErrors).or
      (defectIf (!v.cycles.isEmpty && !v.blocking) .passingWithCycles)

def passed (v : Verdict) : Bool :=
  !v.blocking

def status (v : Verdict) : String :=
  if v.blocking then Failure.blockedStatus else "READY FOR COMPILATION"

def count (v : Verdict) (severity : Severity) : Nat :=
  countOf severity v.findings

def findingsIn (v : Verdict) (categories : List Category) : List Finding :=
  v.findings.filter (·.category ∈ categories)

/-- The failure to emit code. There is none for a verdict that passes. -/
def refusal (v : Verdict) : Outcome Failure :=
  if v.blocking then .ok (.blocked ((v.findings.filter Finding.isError).map Finding.text))
  else .error (.refused .notBlocking)

/-- Fails if code must not be emitted. -/
def ensureEmittable (v : Verdict) : Outcome Unit := do
  if v.blocking then .error (← v.refusal) else .ok ()

def cycleFinding (c : Cycle) : Finding :=
  { category := .circularDependency
    severity := .error
    message := "Circular dependency: " ++ c.path
    behavior := c.behaviors.head?
    suggestion := c.suggestions.head? }

def unknownTargetFinding (u : UnknownTarget) : Finding :=
  match u.kind with
  | .direct =>
    { category := .missingReference
      severity := .error
      message := s!"Behavior '{u.source}' depends on undefined behavior '{u.target}'"
      behavior := some u.source
      suggestion := some s!"Ensure behavior '{u.target}' is properly defined" }
  | .eventSend =>
    { category := .missingReference
      severity := .warning
      message := s!"Behavior '{u.source}' sends events to unknown behavior '{u.target}'"
      behavior := some u.source
      suggestion := some "Event targets are resolved at runtime; check the name" }

def cycleRecommendation (sharedRuntimeName : String) (c : Cycle) : String :=
  match c.behaviors with
  | [a, b] =>
    s!"Use event-based communication instead of direct calls between '{a}' and '{b}'"
  | behaviors =>
    "Extract shared functionality of " ++ ", ".intercalate behaviors ++
      s!" into {sharedRuntimeName} or a coordinator behavior"

def recommend (sharedRuntimeName : String) (cycles : List Cycle) (findings : List Finding) :
    List String :=
  let errors := countOf .error findings
  let warnings := countOf .warning findings
  cycles.map (cycleRecommendation sharedRuntimeName) ++
    (if errors ≠ 0 then ["Fix all errors before proceeding with compilation"] else []) ++
    (if warnings ≠ 0 then ["Consider addressing warnings to improve code quality"] else []) ++
    (if errors = 0 ∧ warnings = 0 ∧ cycles = [] then
      ["No issues found, behaviors are ready for compilation"] else [])

/-- Structural errors come first, then errors in generated code. -/
def stepsAfter (cycles : List Cycle) (findings : List Finding) : List String :=
  if cycles ≠ [] ∨ findings.any (fun f => f.isError ∧ f.category ≠ .generatedCodeIssue) then
    ["Fix the structural errors listed above", "Re-run the analysis"]
  else if findings.any Finding.isError then
    ["Review generated code validation issues", "Check code generation logic"]
  else ["Proceed with UdonSharp compilation", "Deploy to VRChat world"]

def decide (validation : Validation) (analysis : Option Analysis) (issues ordering : List Finding)
    (sharedRuntimeName : String) : Outcome Verdict := do
  let cycles := (analysis.map (·.cycles)).getD []
  let unknown := (analysis.map (·.unknownTargets)).getD []
  let structural ← checkedAll (cycles.map cycleFinding ++ unknown.map unknownTargetFinding)
  let findings := validation.findings ++ structural ++ ordering ++ issues
  checked
    { findings
      cycles
      blocking := !cycles.isEmpty || findings.any Finding.isError
      recommendations := recommend sharedRuntimeName cycles findings
      nextSteps := stepsAfter cycles findings }

theorem passed_eq_not_blocking (v : Verdict) : v.passed = !v.blocking := rfl

theorem ensureEmittable_eq_ok_iff (v : Verdict) : v.ensureEmittable = .ok () ↔ v.passed = true := by
  unfold ensureEmittable refusal passed
  cases v.blocking <;> simp [bind, Except.bind]

end Verdict

end BehaviorPlan
