import BehaviorPlan.Proofs.Graph.Edges
import BehaviorPlan.Proofs.Partition.Assembly

/-! # What is in a behavior

The events, the flag and the calls of an assembled behavior come from the tags on its functions and
from the calls of the functions that it runs. None of them depends on the order of the functions. -/
namespace BehaviorPlan

variable {functions : List FunctionDecl} {name : String}

/-- The tag stands on a function of the behavior. -/
def TagOf (functions : List FunctionDecl) (behavior : String) (tag : BehaviorTag) : Prop :=
  ∃ f ∈ functions, BelongsTo functions f behavior ∧ f.tag = some tag

/-- A tag of the behavior declares a call of the target. -/
def DeclaresCall (functions : List FunctionDecl) (behavior target : String) (kind : CallKind) :
    Prop :=
  ∃ tag, TagOf functions behavior tag ∧
    (kind = .direct ∧ target ∈ tag.dependencies ∨ kind = .eventSend ∧ target ∈ tag.eventTargets)

theorem tag_ne_some_of_reachesAlone {f : FunctionDecl} {tag : BehaviorTag}
    (h : ReachesAlone functions name f) : f.tag ≠ some tag := by
  intro htag
  have hnot := h.1.not_tagged
  simp [FunctionDecl.isTagged, htag] at hnot

namespace Partition

variable (hn : (functions.map (·.name)).Nodup)

include hn

theorem mem_tags_iff {tag : BehaviorTag} :
    tag ∈ (functionsOf functions (ownersOf functions) (reachOf functions) name).filterMap (·.tag) ↔
      TagOf functions name tag := by
  rw [List.mem_filterMap]
  constructor
  · rintro ⟨f, hown, htag⟩
    have hf := functionsOf_subset hn hown
    rcases (mem_functionsOf hn hf).mp hown with hhome | halone
    · exact ⟨f, hf, belongsTo_iff.mpr hhome, htag⟩
    · exact absurd htag (tag_ne_some_of_reachesAlone halone)
  · rintro ⟨f, hf, hbelongs, htag⟩
    exact ⟨f, (mem_functionsOf hn hf).mpr (Or.inl (belongsTo_iff.mp hbelongs)), htag⟩

theorem mem_events_assembled {event : String} :
    event ∈ (assembled functions (ownersOf functions) (reachOf functions) name).events ↔
      ∃ tag, TagOf functions name tag ∧ event ∈ tag.events := by
  simp only [assembled, List.mem_eraseDups, List.mem_flatMap, mem_tags_iff hn]

theorem autoSync_assembled_iff :
    (assembled functions (ownersOf functions) (reachOf functions) name).autoSync = true ↔
      ∃ tag, TagOf functions name tag ∧ tag.autoSync = true := by
  simp only [assembled, List.any_eq_true, mem_tags_iff hn]

theorem mem_use_declaredCalls {target : String} {kind : CallKind} :
    (target, kind) ∈ (((functionsOf functions (ownersOf functions) (reachOf functions)
        name).filterMap (·.tag)).flatMap declaredCalls).map Call.use ↔
      DeclaresCall functions name target kind := by
  simp only [List.map_flatMap, List.mem_flatMap, mem_tags_iff hn, DeclaresCall]
  refine exists_congr fun tag => and_congr_right fun _ => ?_
  simp only [declaredCalls, List.map_append, List.map_map, List.mem_append, List.mem_map,
    Function.comp_def, Call.use, Prod.mk.injEq]
  constructor
  · rintro (⟨d, hd, rfl, rfl⟩ | ⟨t, ht, rfl, rfl⟩)
    · exact Or.inl ⟨rfl, hd⟩
    · exact Or.inr ⟨rfl, ht⟩
  · rintro (⟨rfl, hd⟩ | ⟨rfl, ht⟩)
    · exact Or.inl ⟨target, hd, rfl, rfl⟩
    · exact Or.inr ⟨target, ht, rfl, rfl⟩

/-- A behavior calls what its tags declare, and what its functions call without a declaration. -/
theorem mem_shape_calls_assembled {target : String} {kind : CallKind} {origin : CallOrigin} :
    (target, kind, origin) ∈ (assembled functions (ownersOf functions) (reachOf functions)
        name).calls.map Call.shape ↔
      origin = .declared ∧ DeclaresCall functions name target kind ∨
        (origin = .inferred ∧ kind = .direct ∧ CallsInto functions name target) ∧
          ¬ DeclaresCall functions name target kind := by
  have hdeclared : ∀ c ∈ ((functionsOf functions (ownersOf functions) (reachOf functions)
      name).filterMap (·.tag)).flatMap declaredCalls, c.origin = .declared := by
    intro c hc
    obtain ⟨tag, _, hc⟩ := List.mem_flatMap.mp hc
    simp only [declaredCalls, List.mem_append, List.mem_map] at hc
    rcases hc with ⟨_, _, rfl⟩ | ⟨_, _, rfl⟩
    · rfl
    · rfl
  have hinferred : ∀ c ∈ (reachOf functions).inferredCalls name, c.origin = .inferred := by
    intro c hc
    obtain ⟨-, _, -, rfl⟩ := mem_inferredCalls_reachOf.mp hc
    rfl
  rw [assembled, mem_shape_mergeCalls_append hdeclared hinferred, mem_use_declaredCalls hn,
    mem_use_inferredCalls hn]

end Partition

section SelfCalls

variable {config : Config}

theorem not_declaresCall_self (ha : Declared.Accepted config functions) (name : String) :
    ¬ DeclaresCall functions name name .direct := by
  rintro ⟨tag, ⟨f, hf, hbelongs, htag⟩, ⟨-, hdependency⟩ | ⟨hkind, -⟩⟩
  · have hhome := belongsTo_iff.mp hbelongs
    rw [homeOf, htag, Option.map_some, Option.some.injEq] at hhome
    have hadmissible := Declared.tagProblems_eq_nil_iff.mp (ha.legal f hf tag htag).2
    exact (hadmissible.dependencies name hdependency).2 hhome.symm
  · cases hkind

/-- Behind every direct call of a partition is a tag, or a function that calls one of the target. -/
theorem Partition.declaresCall_or_callsInto {p : Partition} (h : ofFunctions config functions = .ok p)
    (hb : p.blocking = false) {target : String} (hcall : DirectCall p.behaviors name target) :
    DeclaresCall functions name target .direct ∨ CallsInto functions name target := by
  obtain ⟨ha, hbehaviors, -⟩ := ofFunctions_inv h hb
  obtain ⟨u, hu, rfl, c, hc, hkind, htarget⟩ := hcall
  rw [hbehaviors] at hu
  obtain ⟨n, -, rfl⟩ := List.mem_map.mp hu
  have hshape := List.mem_map_of_mem (f := Call.shape) hc
  rw [Call.shape, hkind, htarget, mem_shape_calls_assembled ha.nodup] at hshape
  rcases hshape with ⟨-, hdeclares⟩ | ⟨⟨-, -, hinto⟩, -⟩
  · exact Or.inl hdeclares
  · exact Or.inr hinto

theorem Partition.not_directCall_self {p : Partition} (h : ofFunctions config functions = .ok p)
    (hb : p.blocking = false) (name : String) : ¬ DirectCall p.behaviors name name := by
  intro hcall
  rcases declaresCall_or_callsInto h hb hcall with hdeclares | hinto
  · exact not_declaresCall_self (ofFunctions_inv h hb).1 name hdeclares
  · exact hinto.1 rfl

end SelfCalls

end BehaviorPlan
