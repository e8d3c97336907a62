import BehaviorPlan.Checked
import BehaviorPlan.Name.Lifecycle

/-! # Functions

A function is declared with its calls and, if it starts a behavior or belongs to one by
declaration, a behavior tag. As a member of a behavior only its name, its parameters and whether
it is a lifecycle hook matter. -/
namespace BehaviorPlan

inductive Visibility where
  | publicly
  | privately
  deriving DecidableEq, Repr

def Visibility.all : List Visibility := [publicly, privately]

def Visibility.label : Visibility → String
  | publicly => "PUBLIC"
  | privately => "PRIVATE"

/-- What a tag declares. Its values are checked when functions are partitioned, so that all
problems are reported together. -/
structure BehaviorTag where
  /-- The behavior the function belongs to; if left out, it follows from the function's name. -/
  name : Option String := none
  events : List String := ["Start"]
  /-- Behaviors that are called directly and must start earlier. -/
  dependencies : List String := []
  /-- Behaviors that are sent events at run time. -/
  eventTargets : List String := []
  autoSync : Bool := false
  deriving DecidableEq, Repr

def BehaviorTag.ofDraft (d : Draft BehaviorTag) : Outcome BehaviorTag :=
  d.accept (((d.notList? "events").or (d.notList? "dependencies")).or (d.notList? "event_targets"))

structure FunctionDecl where
  name : String
  visibility : Visibility := .publicly
  tag : Option BehaviorTag := none
  calls : List String := []
  parameterTypes : List String := []
  deriving DecidableEq, Repr

namespace FunctionDecl

instance : Checked FunctionDecl where
  defect? f := blank? "name" f.name

def ofDraft (d : Draft FunctionDecl) : Outcome FunctionDecl :=
  d.accept (((Checked.defect? d.value).or (d.notList? "calls")).or (d.notList? "parameter_types"))

def isTagged (f : FunctionDecl) : Bool :=
  f.tag.isSome

end FunctionDecl

def suggestedBehavior (function : String) : Outcome String :=
  if function = "" then .error (.refused (.blank "function_name"))
  else .ok (Name.inferBehavior function)

structure Member where
  name : String
  parameterTypes : List String := []
  isHook : Bool := false
  deriving DecidableEq, Repr

namespace Member

instance : Checked Member where
  defect? m := blank? "name" m.name

def event? (m : Member) : Option String :=
  if m.isHook then Name.lifecycleEvent? m.name else none

def ofFunction (f : FunctionDecl) : Member :=
  ⟨f.name, f.parameterTypes, Name.isLifecycleHook f.name⟩

@[simp] theorem ofFunction_name (f : FunctionDecl) : (ofFunction f).name = f.name := rfl

theorem ofFunction_event? (f : FunctionDecl) :
    (ofFunction f).event? = Name.lifecycleEvent? f.name := by
  unfold event? ofFunction Name.isLifecycleHook
  cases Name.lifecycleEvent? f.name <;> simp

end Member

end BehaviorPlan
