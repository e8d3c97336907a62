import BehaviorPlan.Number.Quantity
import BehaviorPlan.Text.Quoted

/-! # Failures

A defect says why a value is refused. A failure is a refused value, a name that should be known
and is not, a set of behaviors that cannot be ordered, a manual order with problems, a blocking
verdict, a whole number beyond the range of doubles, or a closing tag in console text that closes
nothing. Each has one message. -/
namespace BehaviorPlan

inductive Defect where
  | blank (field : String)
  | notList (field : String)
  | notSet (field : String)
  | below (field : String) (least got : Int)
  /-- A limit that may also be left out. -/
  | belowLimit (field : String) (least got : Int)
  | negative (field : String)
  | negativeQuantity (field : String) (got : Quantity)
  | notPositive (field : String)
  | notPositiveQuantity (field : String) (got : Quantity)
  | outsideUnitInterval (field : String) (got : Quantity)
  | illegal (field name what : String)
  | sameClassName
  | repeatedMember (function behavior : String)
  | underused (function : String)
  | orderCovers (covered : Nat) (expected : Int)
  | passingWithErrors
  | passingWithCycles
  | stepCount (steps units : Nat)
  | stepUnit (index : Int) (got expected : String)
  | repeatedUnits
  | repeatedStepNames
  | flagsCover
  | flagsRaised
  | repeatedNodes
  | strayForwardKey (node : String)
  | strayDependency (dependency node : String)
  | oneSidedForward (node dependency : String)
  | strayReverseKey (node : String)
  | strayDependent (dependent node : String)
  | oneSidedReverse (dependent node : String)
  | foreignGraph (nodes behaviors : List String)
  | unknownInOrder (name : String)
  | blockedWithUnits
  | noCyclicUnits
  | noOrderProblem
  | notBlocking
  | notNumeral (text : String)
  | notWhole (text : String)
  deriving DecidableEq, Repr

def Defect.message : Defect → String
  | blank field => s!"{field} must not be empty"
  | notList field => s!"{field} must be tuple"
  | notSet field => s!"{field} must be frozenset"
  | below field least got => s!"{field} must be >= {least}, got {got}"
  | belowLimit field least got => s!"{field} must be >= {least} or None, got {got}"
  | negative field => s!"{field} must be >= 0"
  | negativeQuantity field got => s!"{field} must be >= 0, got " ++ got.text
  | notPositive field => s!"{field} must be > 0"
  | notPositiveQuantity field got => s!"{field} must be > 0, got " ++ got.text
  | outsideUnitInterval field got => s!"{field} must be in [0, 1], got " ++ got.text
  | illegal field name what => s!"{field} '{name}' is not a legal {what}"
  | sameClassName => "shared_runtime_name and coordinator_name must differ"
  | repeatedMember function behavior => s!"duplicate function '{function}' in unit '{behavior}'"
  | underused function => s!"shared function '{function}' must be used by >= 2 units"
  | orderCovers covered expected => s!"order covers {covered} units, expected {expected}"
  | passingWithErrors => "verdict with ERROR findings must be blocking"
  | passingWithCycles => "verdict with cycles must be blocking"
  | stepCount steps units => s!"steps ({steps}) must match ordered_units ({units})"
  | stepUnit index got expected => s!"step {index} references '{got}', expected '{expected}'"
  | repeatedUnits => "ordered_units must be unique"
  | repeatedStepNames => "step field and flag names must be unique"
  | flagsCover => "per_unit_ready_flags must cover exactly ordered_units"
  | flagsRaised => "per_unit_ready_flags must start False"
  | repeatedNodes => "nodes must be unique"
  | strayForwardKey node => s!"forward key '{node}' not in nodes"
  | strayDependency dependency node => s!"dependency '{dependency}' of '{node}' not in nodes"
  | oneSidedForward node dependency =>
    s!"inconsistent: {node}→{dependency} in forward, {node} not in reverse[{dependency}]"
  | strayReverseKey node => s!"reverse key '{node}' not in nodes"
  | strayDependent dependent node => s!"dependent '{dependent}' of '{node}' not in nodes"
  | oneSidedReverse dependent node =>
    s!"inconsistent: {dependent}→{node} in reverse, {node} not in forward[{dependent}]"
  | foreignGraph nodes behaviors =>
    "graph nodes " ++ Text.quotedList nodes ++ " do not match units " ++ Text.quotedList behaviors
  | unknownInOrder name => s!"order references unknown unit '{name}'"
  | blockedWithUnits => "blocking partition result must not carry units"
  | noCyclicUnits => "CircularDependencyError requires at least one unit"
  | noOrderProblem => "OrderingViolationError requires at least one problem"
  | notBlocking => "BlockedPipelineError requires a blocking verdict"
  | notNumeral text => "could not convert string to float: " ++ Text.quoted text
  | notWhole text => "invalid literal for int() with base 10: " ++ Text.quoted text

/-- A behavior that a manual order puts before one that it depends on. Positions count from
zero. -/
structure OrderViolation where
  behavior : String
  position : Int
  dependency : String
  dependencyPosition : Int
  deriving DecidableEq, Repr

structure OrderProblems where
  missing : List String := []
  unknown : List String := []
  duplicates : List String := []
  violations : List OrderViolation := []
  deriving DecidableEq, Repr

namespace OrderViolation

def message (v : OrderViolation) : String :=
  s!"Dependency violation: '{v.behavior}' (position {v.position}) depends on " ++
    s!"'{v.dependency}' (position {v.dependencyPosition}) but is initialized before it"

end OrderViolation

namespace OrderProblems

def isEmpty (p : OrderProblems) : Bool :=
  p.missing.isEmpty && p.unknown.isEmpty && p.duplicates.isEmpty && p.violations.isEmpty

def messages (p : OrderProblems) : List String :=
  p.missing.map (fun n => s!"Behavior '{n}' is missing from manual initialization order") ++
    p.unknown.map (fun n => s!"Unknown behavior '{n}' in manual initialization order") ++
    p.duplicates.map
      (fun n => s!"Behavior '{n}' appears more than once in manual initialization order") ++
    p.violations.map OrderViolation.message

end OrderProblems

inductive Failure where
  | refused (defect : Defect)
  | unknownName (name : String)
  | cyclic (behaviors : List String)
  | misordered (problems : OrderProblems)
  /-- Code was to be emitted for a blocking verdict with these errors. -/
  | blocked (errors : List String)
  | tooLarge
  /-- A closing tag in console text that no open tag matches; none if it closes any tag. -/
  | unopened (tag : Option String) (position : Nat)
  deriving DecidableEq, Repr

abbrev Outcome (α : Type) := Except Failure α

def Quantity.toDouble (q : Quantity) : Outcome Double :=
  match q.toDouble? with
  | some d => .ok d
  | none => .error .tooLarge

namespace Failure

def blockedStatus : String := "COMPILATION BLOCKED"

def message : Failure → String
  | refused defect => defect.message
  | unknownName name => Text.quoted name
  | cyclic behaviors =>
    "Circular dependency detected among behaviors: " ++ ", ".intercalate behaviors
  | misordered problems => "\n".intercalate problems.messages
  | blocked errors =>
    "\n".intercalate (s!"{blockedStatus}: {errors.length} error(s)" :: errors)
  | tooLarge => "int too large to convert to float"
  | unopened (some tag) position =>
    s!"closing tag '{tag}' at position {position} doesn't match any open tag"
  | unopened none position => s!"closing tag '[/]' at position {position} has nothing to close"

/-- The failure to order behaviors names at least one of them. -/
def ofCyclic (behaviors : List String) : Outcome Failure :=
  if behaviors = [] then .error (.refused .noCyclicUnits) else .ok (.cyclic behaviors)

def ofProblems (problems : OrderProblems) : Outcome Failure :=
  if problems.isEmpty then .error (.refused .noOrderProblem) else .ok (.misordered problems)

end Failure

end BehaviorPlan
