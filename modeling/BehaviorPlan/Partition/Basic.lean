import BehaviorPlan.Partition.Declared
import BehaviorPlan.Partition.Reach

/-! # Partitions

A partition places declared functions into behaviors: tagged functions by their tags, helpers
with the one behavior that reaches them. Helpers that several behaviors reach are shared. Any
error empties the partition. -/
namespace BehaviorPlan

structure Partition where
  behaviors : List Behavior
  sharedFunctions : List FunctionDecl
  plans : List SharingPlan
  validation : Validation
  deriving DecidableEq, Repr

namespace Partition

instance : Checked Partition where
  defect? p := defectIf (p.validation.blocking && !p.behaviors.isEmpty) .blockedWithUnits

def blocking (p : Partition) : Bool :=
  p.validation.blocking

def names (p : Partition) : List String :=
  p.behaviors.map (·.name)

def failed (findings : List Finding) : Outcome Partition :=
  checked ⟨[], [], [], ⟨findings⟩⟩

/-- Functions of a behavior: its tagged functions, then the helpers that it alone reaches. -/
def functionsOf (functions : List FunctionDecl) (owners : Table String) (reach : Reach)
    (behavior : String) : List FunctionDecl :=
  functions.filter (fun f => owners.get? f.name = some behavior) ++
    functions.filter (fun f => reach.usedBy f.name = [behavior])

def declaredCalls (tag : BehaviorTag) : List Call :=
  tag.dependencies.map (fun d => { target := d, kind := .direct }) ++
    tag.eventTargets.map (fun t => { target := t, kind := .eventSend })

/-- Of several calls of one kind to one target the first is kept. -/
def mergeCalls (calls : List Call) : List Call :=
  calls.foldl (fun kept c =>
    if kept.any fun k => k.target = c.target ∧ k.kind = c.kind then kept else kept ++ [c]) []

def buildBehavior (functions : List FunctionDecl) (owners : Table String) (reach : Reach)
    (name : String) : Outcome Behavior := do
  let own := functionsOf functions owners reach name
  let tags := own.filterMap (·.tag)
  let calls ← checkedAll (tags.flatMap declaredCalls ++ reach.inferredCalls name)
  let members ← checkedAll (own.map Member.ofFunction)
  checked
    { name
      members
      calls := mergeCalls calls
      events := (tags.flatMap (·.events)).eraseDups
      autoSync := tags.any (·.autoSync) }

/-- A helper is placed with the behavior that alone reaches it, if that is one of the names. -/
def placeHelper (names : List String) (reach : Reach) (f : FunctionDecl) : Outcome Unit :=
  match reach.usedBy f.name with
  | [behavior] => if behavior ∈ names then .ok () else .error (.unknownName behavior)
  | _ => .ok ()

/-- Behaviors in order of their first tagged function. -/
def buildBehaviors (functions : List FunctionDecl) (owners : Table String) (reach : Reach) :
    Outcome (List Behavior) := do
  let names := (functions.filterMap fun f => owners.get? f.name).eraseDups
  let _ ← functions.mapM (placeHelper names reach)
  names.mapM (buildBehavior functions owners reach)

/-- Findings on one behavior: entry points, its name among `others`, hooks for synchronized
state. -/
def completeness (config : Config) (b : Behavior) (others : List Behavior) : List Finding :=
  (if b.lifecycleEvents.isEmpty then
    [{ category := .structuralIncompleteness
       severity := if config.requireEntryPoint then .error else .warning
       message := s!"Behavior '{b.name}' has no lifecycle hook (entry point)"
       behavior := some b.name
       suggestion := some "Add a Start, Awake or other Unity event function to the behavior" }]
    else []) ++
  (if others.any (·.name = b.name) then
    [{ category := .invalidUnitName
       severity := .error
       message := s!"Behavior name '{b.name}' is used by more than one behavior"
       behavior := some b.name
       suggestion := some "Give every behavior a unique name" }]
    else []) ++
  (if b.autoSync && !Name.networkingEvents.any (b.lifecycleEvents.contains ·) then
    [{ category := .structuralIncompleteness
       severity := .warning
       message :=
         s!"Behavior '{b.name}' synchronizes state but has no networking lifecycle hook"
       behavior := some b.name
       suggestion := some "Add an OnDeserialization handler to react to synced state" }]
    else [])

def validate (config : Config) (b : Behavior) (others : List Behavior) : Outcome Validation := do
  return ⟨← checkedAll (completeness config b others)⟩

def noEntryPoint (count : Nat) : Finding :=
  { category := .structuralIncompleteness
    severity := .error
    message :=
      if count = 0 then "No behavior found: no function carries a behavior attribute"
      else "No behavior has a lifecycle hook (entry point)"
    suggestion := some "Tag at least one Start, Awake or other Unity event function" }

def behaviorFindings (config : Config) (behaviors : List Behavior) : List Finding :=
  (behaviors.zipIdx.flatMap fun (b, i) => completeness config b (behaviors.eraseIdx i)) ++
    (if behaviors.any fun b => !b.lifecycleEvents.isEmpty then []
      else [noEntryPoint behaviors.length])

def ofFunctions (config : Config) (functions : List FunctionDecl) : Outcome Partition := do
  let declared ← checkedAll (Declared.findings config functions)
  if (Validation.mk declared).blocking then failed declared
  else
    let owners := Table.ofPairs (Declared.owners functions)
    let reach ← Reach.ofOwners owners functions
    let behaviors ← buildBehaviors functions owners reach
    let findings ← checkedAll (declared ++ behaviorFindings config behaviors)
    if (Validation.mk findings).blocking then failed findings
    else
      let plans ← reach.plans functions
      checked ⟨behaviors, reach.shared functions, plans, ⟨findings⟩⟩

end Partition

end BehaviorPlan
