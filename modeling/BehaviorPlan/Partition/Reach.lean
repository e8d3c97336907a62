import BehaviorPlan.Behavior
import BehaviorPlan.Partition.Sharing
import BehaviorPlan.Table

/-! # What behaviors reach

From its tagged functions a behavior reaches helpers, the untagged functions that are called
directly or through other helpers. A call of a tagged function is not followed: it is a call into
the behavior that owns the function. A helper that one behavior reaches is local to it, and one
that several reach is shared. -/
namespace BehaviorPlan

/-- What a walk through the calls of one behavior finds. -/
structure Trace where
  helpers : List String := []
  /-- Every call of a helper: the calling function and the helper. -/
  sites : List (String × String) := []
  /-- Other behaviors that are called, each with the function that calls it first. -/
  entries : List (String × String) := []
  deriving DecidableEq, Repr

def declaration? (functions : List FunctionDecl) (name : String) : Option FunctionDecl :=
  functions.find? (·.name = name)

namespace Trace

def callsOf (f : FunctionDecl) : List (String × String) :=
  f.calls.map fun callee => (f.name, callee)

/-- A call into another behavior is entered unless that behavior was called before. -/
def enter (t : Trace) (behavior caller owner : String) : Trace :=
  if owner ≠ behavior ∧ owner ∉ t.entries.map (·.1) then
    { t with entries := t.entries ++ [(owner, caller)] }
  else t

/-- Follows the pending calls, the first one first; the calls of a new helper come before the
others. `unseen` holds the names that were not reached yet. -/
def follow (functions : List FunctionDecl) (owners : Table String) (behavior : String)
    (unseen : List String) (pending : List (String × String)) (trace : Trace) : Trace :=
  match pending with
  | [] => trace
  | (caller, callee) :: pending =>
    match declaration? functions callee with
    | none => follow functions owners behavior unseen pending trace
    | some f =>
      if f.isTagged then
        match owners.get? callee with
        | none => follow functions owners behavior unseen pending trace
        | some owner =>
          follow functions owners behavior unseen pending (trace.enter behavior caller owner)
      else
        let trace := { trace with sites := trace.sites ++ [(caller, callee)] }
        if callee ∈ unseen then
          follow functions owners behavior (unseen.erase callee) (callsOf f ++ pending)
            { trace with helpers := trace.helpers ++ [callee] }
        else follow functions owners behavior unseen pending trace
termination_by (unseen.length, pending.length)
decreasing_by
  · exact Prod.Lex.right _ (by simp)
  · exact Prod.Lex.right _ (by simp)
  · exact Prod.Lex.right _ (by simp)
  · rename_i h
    exact Prod.Lex.left _ _ (by
      rw [List.length_erase_of_mem h]
      exact Nat.sub_lt (List.length_pos_of_mem h) Nat.one_pos)
  · exact Prod.Lex.right _ (by simp)

end Trace

structure Reach where
  traces : Table Trace
  deriving DecidableEq, Repr

namespace Reach

def rootCalls (functions : List FunctionDecl) (name : String) : Outcome (List (String × String)) :=
  match declaration? functions name with
  | some f => .ok (Trace.callsOf f)
  | none => .error (.unknownName name)

def traceOf (functions : List FunctionDecl) (owners : Table String) (behavior : String)
    (roots : List String) : Outcome Trace := do
  let calls ← roots.mapM (rootCalls functions)
  return Trace.follow functions owners behavior (functions.map (·.name)).eraseDups calls.flatten {}

/-- Walks from the tagged functions of every behavior. `owners` assigns each tagged function to
its behavior. -/
def ofOwners (owners : Table String) (functions : List FunctionDecl) : Outcome Reach := do
  let groups := groupPairs (owners.entries.map fun e => (e.2, e.1))
  let traces ← groups.entries.mapM fun (behavior, roots) => do
    return (behavior, ← traceOf functions owners behavior roots)
  return ⟨⟨traces⟩⟩

def usedBy (r : Reach) (helper : String) : List String :=
  (r.traces.entries.filter (helper ∈ ·.2.helpers)).map (·.1)

def usedBy? (r : Reach) (helper : String) : Option (List String) :=
  if r.usedBy helper = [] then none else some (r.usedBy helper)

def callCount (r : Reach) (helper : String) : Nat :=
  (((r.traces.values.flatMap (·.sites)).filter (·.2 = helper)).map (·.1)).eraseDups.length

/-- Calls into other behaviors that follow from the calls between functions. -/
def inferredCalls (r : Reach) (behavior : String) : List Call :=
  match r.traces.get? behavior with
  | some trace => trace.entries.map fun (owner, caller) =>
    { target := owner, kind := .direct, origin := .inferred, via := some caller }
  | none => []

def shared (r : Reach) (functions : List FunctionDecl) : List FunctionDecl :=
  functions.filter fun f => decide (2 ≤ (r.usedBy f.name).length)

def plans (r : Reach) (functions : List FunctionDecl) : Outcome (List SharingPlan) :=
  SharingPlan.plansFor r.usedBy? (fun n => r.callCount n) ((r.shared functions).map (·.name))

end Reach

def ownersIn (behaviors : List Behavior) (functions : List FunctionDecl) : Table String :=
  let tagged := (functions.filter (·.isTagged)).map (·.name)
  .ofPairs (behaviors.flatMap fun b =>
    (b.memberNames.filter (· ∈ tagged)).map fun name => (name, b.name))

def sharedFunctions (behaviors : List Behavior) (functions : List FunctionDecl) :
    Outcome (List FunctionDecl) := do
  return (← Reach.ofOwners (ownersIn behaviors functions) functions).shared functions

def sharingPlans (behaviors : List Behavior) (functions : List FunctionDecl) :
    Outcome (List SharingPlan) := do
  (← Reach.ofOwners (ownersIn behaviors functions) functions).plans functions

end BehaviorPlan
