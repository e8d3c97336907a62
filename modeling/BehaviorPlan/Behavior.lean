import BehaviorPlan.Function

/-! # Behaviors

A behavior is one class to be generated: its member functions, the events it handles and its
calls into other behaviors. A direct call makes the target start first; an event that is sent is
resolved by name at run time and constrains nothing. -/
namespace BehaviorPlan

inductive CallKind where
  | direct
  | eventSend
  deriving DecidableEq, Repr

def CallKind.all : List CallKind := [direct, eventSend]

def CallKind.label : CallKind → String
  | direct => "DIRECT"
  | eventSend => "EVENT_SEND"

/-- A call is declared by a tag or inferred from the calls between functions. -/
inductive CallOrigin where
  | declared
  | inferred
  deriving DecidableEq, Repr

def CallOrigin.all : List CallOrigin := [declared, inferred]

def CallOrigin.label : CallOrigin → String
  | declared => "DECLARED"
  | inferred => "INFERRED"

structure Call where
  target : String
  kind : CallKind
  origin : CallOrigin := .declared
  /-- The calling function of an inferred call. -/
  via : Option String := none
  deriving DecidableEq, Repr

instance : Checked Call where
  defect? c := blank? "target" c.target

structure Behavior where
  name : String
  members : List Member := []
  calls : List Call := []
  events : List String := []
  autoSync : Bool := false
  deriving DecidableEq, Repr

def firstRepeat? : List String → List String → Option String
  | _, [] => none
  | seen, n :: ns => if n ∈ seen then some n else firstRepeat? (n :: seen) ns

namespace Behavior

def memberNames (b : Behavior) : List String :=
  b.members.map (·.name)

instance : Checked Behavior where
  defect? b :=
    ((blank? "name" b.name).or
      (defectIf (!Name.isIdentifier b.name) (.illegal "name" b.name "identifier"))).or
      ((firstRepeat? [] b.memberNames).map fun function => .repeatedMember function b.name)

/-- Unity events that the behavior implements: declared ones, then those of its hooks. -/
def lifecycleEvents (b : Behavior) : List String :=
  (b.events.filter Name.isUnityEvent ++ b.members.filterMap (·.event?)).eraseDups

def targets (b : Behavior) (kind : CallKind) : List String :=
  ((b.calls.filter (·.kind = kind)).map (·.target)).eraseDups

def directDependencies (b : Behavior) : List String :=
  b.targets .direct

def eventTargets (b : Behavior) : List String :=
  b.targets .eventSend

def callsTo (b : Behavior) (target : String) : List Call :=
  b.calls.filter (·.target = target)

/-- The behavior of a name; the last one if a name is used twice. -/
def named (behaviors : List Behavior) (name : String) : Outcome Behavior :=
  match behaviors.reverse.find? (·.name = name) with
  | some b => .ok b
  | none => .error (.unknownName name)

end Behavior

theorem firstRepeat?_eq_none_iff (seen names : List String) :
    firstRepeat? seen names = none ↔ names.Nodup ∧ ∀ n ∈ names, n ∉ seen := by
  induction names generalizing seen with
  | nil => simp [firstRepeat?]
  | cons n ns ih =>
    unfold firstRepeat?
    split
    · rename_i h
      simp [h]
    · rename_i h
      rw [ih, List.nodup_cons]
      constructor
      · rintro ⟨hd, hm⟩
        refine ⟨⟨fun hn => hm n hn (by simp), hd⟩, ?_⟩
        intro m hmem
        rcases List.mem_cons.mp hmem with rfl | hm'
        · exact h
        · exact fun hs => hm m hm' (by simp [hs])
      · rintro ⟨⟨hn, hd⟩, hm⟩
        refine ⟨hd, ?_⟩
        intro m hm' hs
        rcases List.mem_cons.mp hs with rfl | hs'
        · exact hn hm'
        · exact hm m (by simp [hm']) hs'

end BehaviorPlan
