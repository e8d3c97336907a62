import BehaviorPlan.Behavior
import BehaviorPlan.Startup.Source
import BehaviorPlan.Table

/-! # The startup coordinator

Turns a startup order into numbered steps with distinct field names, the coordinator class that
carries them out, and execution priorities. -/
namespace BehaviorPlan

structure Coordinator where
  name : String
  order : List String
  steps : List Step
  timeout : Quantity
  /-- Readiness of the behaviors before anything has started. -/
  readyFlags : Table Bool
  source : ClassSource
  deriving DecidableEq, Repr

namespace Coordinator

def stepNames (steps : List Step) : List String :=
  steps.flatMap fun s => [s.fieldName, s.flagName]

/-- The first step that starts another behavior than the order says. -/
def mismatch? (steps : List Step) (order : List String) : Option Defect :=
  (steps.zip order).findSome? fun (s, b) =>
    if s.behavior = b then none else some (.stepUnit s.index s.behavior b)

def sameNames (xs ys : List String) : Bool :=
  xs.all (ys.contains ·) && ys.all (xs.contains ·)

instance : Checked Coordinator where
  defect? c :=
    (((defectIf (decide (c.steps.length ≠ c.order.length))
        (.stepCount c.steps.length c.order.length)).or
      (mismatch? c.steps c.order)).or
      ((defectIf (decide (¬ c.order.Nodup)) .repeatedUnits).or
        (defectIf (decide (¬ (stepNames c.steps).Nodup)) .repeatedStepNames))).or
      (((defectIf (c.timeout.le .zero) (.notPositive "timeout_seconds")).or
        (defectIf (!sameNames c.readyFlags.keys c.order) .flagsCover)).or
        (defectIf (c.readyFlags.values.any id) .flagsRaised))

def stepFor? (c : Coordinator) (behavior : String) : Option Step :=
  c.steps.find? (·.behavior = behavior)

end Coordinator

namespace Startup

/-- Steps with field names in snake case. Different names may have the same snake case form; from
the second one on, the step number is appended. -/
def stepsFrom (index : Nat) (taken : List String) : List String → List Step
  | [] => []
  | b :: bs =>
    let stem := Name.toSnake b
    let suffix := if stem ∈ taken then s!"_{index}" else ""
    { index
      behavior := b
      fieldName := s!"_{stem}_behavior{suffix}"
      flagName := s!"_{stem}_initialized{suffix}" } :: stepsFrom (index + 1) (stem :: taken) bs

def steps (order : List String) : List Step :=
  stepsFrom 1 [] order

def synthesize (settings : StartupSettings) (order : List String) (behaviors : List Behavior) :
    Outcome Coordinator := do
  let names := behaviors.map (·.name)
  match order.find? (· ∉ names) with
  | some name => .error (.refused (.unknownInOrder name))
  | none =>
    let steps ← checkedAll (steps order)
    let source ← render settings.coordinatorName steps settings
    checked
      { name := settings.coordinatorName
        order
        steps
        timeout := settings.timeout
        readyFlags := .ofKeys order.eraseDups fun _ => false
        source }

def coordinatorPriority : Int := -1000

def priorityStep : Int := 100

/-- Execution priorities, the coordinator first; none if the settings ask for none. -/
def hints (settings : StartupSettings) (order : List String) : List OrderHint :=
  if settings.orderHints then
    ⟨settings.coordinatorName, coordinatorPriority⟩ ::
      order.zipIdx.map fun (name, i) => ⟨name, i * priorityStep⟩
  else []

theorem stepsFrom_behavior (index : Nat) (taken order : List String) :
    (stepsFrom index taken order).map (·.behavior) = order := by
  induction order generalizing index taken with
  | nil => rfl
  | cons b bs ih => simp [stepsFrom, ih]

theorem steps_behavior (order : List String) : (steps order).map (·.behavior) = order :=
  stepsFrom_behavior 1 [] order

end Startup

end BehaviorPlan
