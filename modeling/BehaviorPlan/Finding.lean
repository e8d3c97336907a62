import BehaviorPlan.Checked

/-! # Findings

A finding is one problem of the input or of generated code. Findings are collected, counted and
grouped; only an error blocks. -/
namespace BehaviorPlan

inductive Severity where
  | error
  | warning
  | info
  deriving DecidableEq, Repr

def Severity.all : List Severity := [error, warning, info]

def Severity.label : Severity → String
  | error => "ERROR"
  | warning => "WARNING"
  | info => "INFO"

/-- Categories stand in the order in which reports group them. -/
inductive Category where
  | invalidUnitName
  | invalidAttribute
  | missingReference
  | circularDependency
  | orderingViolation
  | structuralIncompleteness
  | generatedCodeIssue
  deriving DecidableEq, Repr

def Category.all : List Category :=
  [invalidUnitName, invalidAttribute, missingReference, circularDependency, orderingViolation,
    structuralIncompleteness, generatedCodeIssue]

def Category.label : Category → String
  | invalidUnitName => "INVALID_UNIT_NAME"
  | invalidAttribute => "INVALID_ATTRIBUTE"
  | missingReference => "MISSING_REFERENCE"
  | circularDependency => "CIRCULAR_DEPENDENCY"
  | orderingViolation => "ORDERING_VIOLATION"
  | structuralIncompleteness => "STRUCTURAL_INCOMPLETENESS"
  | generatedCodeIssue => "GENERATED_CODE_ISSUE"

structure Finding where
  category : Category
  severity : Severity
  message : String
  behavior : Option String := none
  function : Option String := none
  rule : Option String := none
  /-- Line of the generated code, counted from one. -/
  line : Option Int := none
  suggestion : Option String := none
  deriving DecidableEq, Repr

def present? (text : Option String) : Option String :=
  text.filter (· ≠ "")

namespace Finding

instance : Checked Finding where
  defect? f :=
    (blank? "message" f.message).or
      (f.line.bind fun line => defectIf (decide (line < 1)) (.below "line" 1 line))

def isError (f : Finding) : Bool :=
  f.severity = .error

/-- What the finding is about, as narrow as it is known. -/
def subject (f : Finding) : String :=
  let parts := (present? f.behavior).toList ++ (present? f.function).toList
  let place := if parts = [] then "<global>" else ".".intercalate parts
  match f.line with
  | some line => s!"{place}:{line}"
  | none => place

def text (f : Finding) : String :=
  let head := s!"[{f.severity.label}] {f.category.label}: {f.message}"
  match present? f.suggestion with
  | some suggestion => s!"{head}\n  suggestion: {suggestion}"
  | none => head

end Finding

/-- Findings grouped by category, in category order and without empty groups. -/
def groupByCategory (findings : List Finding) : List (Category × List Finding) :=
  (Category.all.map fun c => (c, findings.filter (·.category = c))).filter (·.2 ≠ [])

def countOf (severity : Severity) (findings : List Finding) : Nat :=
  findings.countP (·.severity = severity)

/-- The findings of one stage, in order of discovery. -/
structure Validation where
  findings : List Finding := []
  deriving DecidableEq, Repr

namespace Validation

def empty : Validation := ⟨[]⟩

def blocking (v : Validation) : Bool :=
  v.findings.any Finding.isError

def count (v : Validation) (severity : Severity) : Nat :=
  countOf severity v.findings

/-- One more category, entered only if there are findings for it. -/
def enterCategory (v : Validation) (grouped : List (Category × List Finding)) (c : Category) :
    List (Category × List Finding) :=
  let found := v.findings.filter (·.category = c)
  if found = [] then grouped else grouped ++ [(c, found)]

def byCategory (v : Validation) : List (Category × List Finding) :=
  Category.all.foldl v.enterCategory []

def merge (v w : Validation) : Validation :=
  ⟨v.findings ++ w.findings⟩

theorem count_merge (v w : Validation) (severity : Severity) :
    (v.merge w).count severity = v.count severity + w.count severity := by
  simp [count, countOf, merge]

theorem blocking_merge (v w : Validation) :
    (v.merge w).blocking = (v.blocking || w.blocking) := by
  simp [blocking, merge]

end Validation

theorem countOf_append (severity : Severity) (xs ys : List Finding) :
    countOf severity (xs ++ ys) = countOf severity xs + countOf severity ys := by
  simp [countOf]

theorem Category.mem_all (c : Category) : c ∈ Category.all := by
  cases c <;> decide

end BehaviorPlan
