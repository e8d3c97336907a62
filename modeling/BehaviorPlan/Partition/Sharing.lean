import BehaviorPlan.Checked
import BehaviorPlan.Name.Casing
import BehaviorPlan.Text.Lines

/-! # Sharing plans

A helper that several behaviors use is emitted once, in the shared runtime. Its plan scores what
that saves and recommends a strategy. The score is a double, computed in a fixed order. -/
namespace BehaviorPlan

inductive FunctionKind where
  | unityEvent
  | utility
  | dataAccess
  | eventHandler
  | businessLogic
  deriving DecidableEq, Repr

namespace FunctionKind

def all : List FunctionKind := [unityEvent, utility, dataAccess, eventHandler, businessLogic]

def label : FunctionKind → String
  | unityEvent => "UNITY_EVENT"
  | utility => "UTILITY"
  | dataAccess => "DATA_ACCESS"
  | eventHandler => "EVENT_HANDLER"
  | businessLogic => "BUSINESS_LOGIC"

/-- Pieces of a name that tell its kind. The first kind with a match is taken. -/
def markers : List (FunctionKind × List String) :=
  [(unityEvent, ["start", "awake", "update", "fixed_update", "on_enable", "on_disable"]),
    (utility,
      ["calculate", "compute", "convert", "format", "parse", "validate", "helper", "util"]),
    (dataAccess, ["get", "set", "load", "save", "read", "write"]),
    (eventHandler, ["handle", "event", "trigger"])]

def ofName (name : String) : FunctionKind :=
  let lowered := Text.lower name.toList
  match markers.find? fun m => m.2.any fun piece => Text.contains piece.toList lowered with
  | some m => m.1
  | none => if "on_".toList.isPrefixOf lowered then eventHandler else businessLogic

def weight : FunctionKind → Double
  | utility => .ofRatio false 2 1
  | dataAccess => .ofRatio false 3 2
  | businessLogic => .ofRatio false 1 1
  | eventHandler => .ofRatio false 4 5
  | unityEvent => .ofRatio false 3 10

/-- Estimated size of one copy, in bytes. -/
def size : FunctionKind → Int
  | utility => 50
  | dataAccess => 100
  | businessLogic => 200
  | eventHandler => 75
  | unityEvent => 150

end FunctionKind

inductive SharingStrategy where
  | moveToSharedRuntime
  | staticMethod
  | interfaceMethod
  | keepLocal
  deriving DecidableEq, Repr

def SharingStrategy.all : List SharingStrategy :=
  [moveToSharedRuntime, staticMethod, interfaceMethod, keepLocal]

def SharingStrategy.label : SharingStrategy → String
  | moveToSharedRuntime => "MOVE_TO_SHARED_RUNTIME"
  | staticMethod => "STATIC_METHOD"
  | interfaceMethod => "INTERFACE_METHOD"
  | keepLocal => "KEEP_LOCAL"

structure SharingPlan where
  name : String
  /-- Behaviors that reach the function, in order of declaration. -/
  usedBy : List String
  /-- Number of functions that call it. -/
  callCount : Int
  kind : FunctionKind
  benefit : Quantity
  strategy : SharingStrategy
  sizeReduction : Int
  deriving DecidableEq, Repr

namespace SharingPlan

instance : Checked SharingPlan where
  defect? p :=
    ((blank? "name" p.name).or (defectIf (decide (p.usedBy.length < 2)) (.underused p.name))).or
      ((defectIf (decide (p.callCount < 0)) (.negative "call_count")).or
        (defectIf (decide (p.sizeReduction < 0)) (.negative "estimated_size_reduction")))

def times (n : Int) (d : Double) : Outcome Double := do
  return (← (Quantity.whole n).toDouble).mul d

/-- Ten for every behavior but one and two for every caller, weighted by kind. -/
def benefitOf (behaviorCount callCount : Int) (kind : FunctionKind) : Outcome Double := do
  let copies ← times (behaviorCount - 1) (.ofInt 10)
  let calls ← times callCount (.ofInt 2)
  return (copies.add calls).mul kind.weight

def strategyFor (benefit : Quantity) (behaviorCount : Int) (kind : FunctionKind) :
    SharingStrategy :=
  if kind = .unityEvent then .keepLocal
  else if (Quantity.whole 20).lt benefit then .moveToSharedRuntime
  else if (Quantity.whole 10).lt benefit then .staticMethod
  else if (Quantity.whole 5).lt benefit ∧ 2 < behaviorCount then .interfaceMethod
  else .keepLocal

/-- Bytes of all copies but one, less the cost of going through the shared runtime. -/
def reductionOf (behaviorCount : Int) (kind : FunctionKind) : Int :=
  if behaviorCount < 2 then 0 else kind.size * (behaviorCount - 1) - 20

def forFunction (usedBy : String → Option (List String)) (callCount : String → Int)
    (name : String) : Outcome SharingPlan := do
  let behaviors ← match usedBy name with
    | some behaviors => Except.ok behaviors
    | none => .error (.unknownName name)
  let kind := FunctionKind.ofName name
  let count : Int := behaviors.length
  let benefit ← benefitOf count (callCount name) kind
  checked
    { name
      usedBy := behaviors
      callCount := callCount name
      kind
      benefit := .real benefit
      strategy := strategyFor (.real benefit) count kind
      sizeReduction := reductionOf count kind }

/-- Highest benefit first; plans of equal benefit keep their order. -/
def sortByBenefit (plans : List SharingPlan) : List SharingPlan :=
  plans.mergeSort fun p q => q.benefit.le p.benefit

def plansFor (usedBy : String → Option (List String)) (callCount : String → Int)
    (shared : List String) : Outcome (List SharingPlan) := do
  return sortByBenefit (← shared.mapM (forFunction usedBy callCount))

theorem sortByBenefit_perm (plans : List SharingPlan) : (sortByBenefit plans).Perm plans :=
  List.mergeSort_perm _ _

end SharingPlan

end BehaviorPlan
