import BehaviorPlan.Proofs.Partition.Placement

/-! # How behaviors are linked

Each call of a behavior has one reason: a tag declares it, or a function that the behavior runs calls
a function of the target. Each helper knows the behaviors that reach it and the number of functions
that call it. -/
namespace BehaviorPlan

variable {functions : List FunctionDecl} {behavior : String}

/-- A function of the name `caller` that the behavior runs calls a function of the other one. -/
def CallsIntoVia (functions : List FunctionDecl) (behavior other caller : String) : Prop :=
  ∃ g, Runs functions behavior g ∧ g.name = caller ∧
    ∃ f ∈ functions, BelongsTo functions f other ∧ f.name ∈ g.calls

/-- A behavior and its calls. Its tagged members are the functions that belong to it; they and the
helpers that it reaches are what it runs. -/
structure Linked (functions : List FunctionDecl) (b : Behavior) : Prop where
  tagged_member_iff : ∀ f ∈ functions, f.isTagged = true →
    (f.name ∈ b.memberNames ↔ BelongsTo functions f b.name)
  nodup_use : (b.calls.map Call.use).Nodup
  direct_iff : ∀ target, (∃ c ∈ b.calls, c.target = target ∧ c.kind = .direct) ↔
    DeclaresCall functions b.name target .direct ∨ CallsInto functions b.name target
  declared_iff : ∀ c ∈ b.calls, c.kind = .direct →
    (c.origin = .declared ↔ DeclaresCall functions b.name c.target .direct)
  via : ∀ c ∈ b.calls, c.kind = .direct → ¬ DeclaresCall functions b.name c.target .direct →
    ∃ caller, c.via = some caller ∧ CallsIntoVia functions b.name c.target caller
  eventSend_iff : ∀ target, (∃ c ∈ b.calls, c.target = target ∧ c.kind = .eventSend) ↔
    DeclaresCall functions b.name target .eventSend

/-- The functions that call a helper: tagged ones and helpers that are reached themselves. -/
def CallsReached (functions : List FunctionDecl) (h g : FunctionDecl) : Prop :=
  g ∈ functions ∧ h.name ∈ g.calls ∧
    (g.isTagged = true ∨ ∃ behavior, Reaches functions behavior g)

/-- What is known of the helpers that behaviors reach. -/
structure Counts (functions : List FunctionDecl) (p : Partition) (reach : Reach) : Prop where
  names_nodup : p.names.Nodup
  usedBy_sublist : ∀ name, (reach.usedBy name).Sublist p.names
  mem_usedBy_iff : ∀ h ∈ functions, ∀ behavior,
    behavior ∈ reach.usedBy h.name ↔ Reaches functions behavior h
  callCount : ∀ h ∈ functions, (∃ behavior, Reaches functions behavior h) →
    ∃ callers : List FunctionDecl, callers.Sublist functions ∧
      (∀ g, g ∈ callers ↔ CallsReached functions h g) ∧ reach.callCount h.name = callers.length
  plans : ∀ plan ∈ p.plans,
    plan.usedBy = reach.usedBy plan.name ∧ plan.callCount = reach.callCount plan.name

theorem runs_iff {g : FunctionDecl} : Runs functions behavior g ↔
    g ∈ functions ∧ BelongsTo functions g behavior ∨ Reaches functions behavior g := by
  constructor
  · rintro ⟨f, hf, hbelongs, hfg⟩
    rcases Relation.reflTransGen_iff_eq_or_transGen.mp hfg with rfl | hfg
    · exact Or.inl ⟨hf, hbelongs⟩
    · exact Or.inr ⟨f, hf, hbelongs, hfg⟩
  · rintro (⟨hg, hbelongs⟩ | ⟨f, hf, hbelongs, hfg⟩)
    · exact ⟨g, hg, hbelongs, .refl⟩
    · exact ⟨f, hf, hbelongs, hfg.to_reflTransGen⟩

section Calls

variable (hn : (functions.map (·.name)).Nodup)

include hn

theorem exists_via_of_mem_inferredCalls {c : Call}
    (hc : c ∈ (reachOf functions).inferredCalls behavior) :
    ∃ caller, c.via = some caller ∧ CallsIntoVia functions behavior c.target caller := by
  obtain ⟨-, ⟨owner, caller⟩, he, rfl⟩ := Partition.mem_inferredCalls_reachOf.mp hc
  obtain ⟨-, callee, f, hdecl, -, howner, hfollowed⟩ := justified_traceFor.entries _ he
  exact ⟨caller, rfl, exists_runs_of_followed hn hdecl howner hfollowed⟩

namespace Partition

variable {name : String}

theorem exists_mem_calls_assembled_iff {target : String} {kind : CallKind} :
    (∃ c ∈ (assembled functions (ownersOf functions) (reachOf functions) name).calls,
      c.target = target ∧ c.kind = kind) ↔
      DeclaresCall functions name target kind ∨
        kind = .direct ∧ CallsInto functions name target := by
  rw [← mem_use_declaredCalls hn, ← mem_use_inferredCalls hn, ← List.mem_append, ← List.map_append,
    ← mem_use_mergeCalls, List.mem_map]
  simp only [Call.use, Prod.mk.injEq]
  rfl

theorem mem_inferredCalls_of_not_declares {c : Call}
    (hc : c ∈ (assembled functions (ownersOf functions) (reachOf functions) name).calls)
    (hnot : ¬ DeclaresCall functions name c.target c.kind) :
    c ∈ (reachOf functions).inferredCalls name := by
  refine (List.mem_append.mp (mergeCalls_subset hc)).resolve_left fun hdeclared => hnot ?_
  exact (mem_use_declaredCalls hn).mp (List.mem_map_of_mem (f := Call.use) hdeclared)

theorem linked_assembled :
    Linked functions (assembled functions (ownersOf functions) (reachOf functions) name) where
  tagged_member_iff f hf htag := by
    rw [mem_memberNames_assembled hn hf]
    refine or_iff_left fun halone => ?_
    exact Bool.false_ne_true (halone.1.not_tagged.symm.trans htag)
  nodup_use := nodup_use_mergeCalls _
  direct_iff target := by
    rw [exists_mem_calls_assembled_iff hn]
    exact or_congr_right (and_iff_right rfl)
  declared_iff c hc hkind := by
    have hshape := (mem_shape_calls_assembled hn).mp (List.mem_map_of_mem (f := Call.shape) hc)
    rw [hkind] at hshape
    rcases hshape with ⟨horigin, hdeclares⟩ | ⟨⟨horigin, -⟩, hnot⟩
    · exact iff_of_true horigin hdeclares
    · exact iff_of_false (by simp [horigin]) hnot
  via c hc hkind hnot :=
    exists_via_of_mem_inferredCalls hn (mem_inferredCalls_of_not_declares hn hc (hkind ▸ hnot))
  eventSend_iff target := by
    rw [exists_mem_calls_assembled_iff hn]
    exact or_iff_left fun h => absurd h.1 nofun

end Partition

theorem callerOf_iff {h g : FunctionDecl} (hh : h ∈ functions) (htag : h.isTagged = false)
    (hg : g ∈ functions) : CallerOf functions h.name g.name ↔ CallsReached functions h g := by
  constructor
  · rintro ⟨b, g', h', hruns, ⟨hh', -, hcalls⟩, hgname, hhname⟩
    obtain rfl : g' = g := List.inj_on_of_nodup_map hn hruns.mem hg hgname
    obtain rfl : h' = h := List.inj_on_of_nodup_map hn hh' hh hhname
    refine ⟨hg, hcalls, ?_⟩
    rcases runs_iff.mp hruns with ⟨-, hbelongs⟩ | hreach
    · exact Or.inl (isTagged_of_homeOf (belongsTo_iff.mp hbelongs))
    · exact Or.inr ⟨b, hreach⟩
  · rintro ⟨-, hcalls, htagged | ⟨b, hreach⟩⟩
    · obtain ⟨b, hhome⟩ := @exists_homeOf functions g htagged
      have hruns := runs_iff.mpr (Or.inl ⟨hg, belongsTo_iff.mpr hhome⟩)
      exact ⟨b, g, h, hruns, ⟨hh, htag, hcalls⟩, rfl, rfl⟩
    · exact ⟨b, g, h, runs_iff.mpr (Or.inr hreach), ⟨hh, htag, hcalls⟩, rfl, rfl⟩

theorem exists_reached_callers {h : FunctionDecl} (hh : h ∈ functions) (htag : h.isTagged = false) :
    ∃ callers : List FunctionDecl, callers.Sublist functions ∧
      (∀ g, g ∈ callers ↔ CallsReached functions h g) ∧
        (reachOf functions).callCount h.name = callers.length := by
  obtain ⟨names, hnodup, hmem, hcount⟩ := exists_callers hn h.name
  have hcaller : ∀ g, g ∈ functions.filter (·.name ∈ names) ↔ CallsReached functions h g := by
    intro g
    rw [List.mem_filter, decide_eq_true_eq, hmem]
    constructor
    · exact fun ⟨hg, hcall⟩ => (callerOf_iff hn hh htag hg).mp hcall
    · exact fun hcalls => ⟨hcalls.1, (callerOf_iff hn hh htag hcalls.1).mpr hcalls⟩
  have hnames : ((functions.filter (·.name ∈ names)).map (·.name)).Perm names := by
    refine (List.perm_ext_iff_of_nodup (hn.sublist (List.filter_sublist.map _)) hnodup).mpr ?_
    intro name
    rw [List.mem_map]
    constructor
    · rintro ⟨g, hg, rfl⟩
      exact of_decide_eq_true (List.mem_filter.mp hg).2
    · intro hname
      obtain ⟨_, g, _, hruns, _, rfl, _⟩ := (hmem name).mp hname
      exact ⟨g, List.mem_filter.mpr ⟨hruns.mem, decide_eq_true hname⟩, rfl⟩
  refine ⟨functions.filter (·.name ∈ names), List.filter_sublist, hcaller, ?_⟩
  rw [hcount, ← hnames.length_eq, List.length_map]

end Calls

theorem Reach.eq_of_mem_plans {r : Reach} {plans : List SharingPlan}
    (h : r.plans functions = .ok plans) {plan : SharingPlan} (hp : plan ∈ plans) :
    plan.usedBy = r.usedBy plan.name ∧ plan.callCount = r.callCount plan.name := by
  obtain ⟨unsorted, hunsorted, h⟩ := Outcome.bind_eq_ok_iff.mp h
  obtain rfl := Except.ok.inj h
  rw [(SharingPlan.sortByBenefit_perm unsorted).mem_iff] at hp
  obtain ⟨name, _, hplan⟩ := Outcome.exists_of_mem_mapM hunsorted hp
  obtain ⟨behaviors, _, hused, _, _, rfl⟩ := SharingPlan.forFunction_eq_ok_iff.mp hplan
  rw [Reach.usedBy?] at hused
  split at hused
  · cases hused
  · exact ⟨(Option.some.inj hused).symm, rfl⟩

namespace Partition

variable {config : Config} {p : Partition}

theorem counts_reachOf (h : ofFunctions config functions = .ok p) (hb : p.blocking = false) :
    Counts functions p (reachOf functions) := by
  obtain ⟨ha, hbehaviors, -, hplans, -⟩ := ofFunctions_inv h hb
  have hnames : p.names = homes functions := by rw [names, hbehaviors, names_assembledAll]
  refine
    { names_nodup := hnames ▸ nodup_eraseDups _
      usedBy_sublist := fun name => ?_
      mem_usedBy_iff := fun h hh behavior => mem_usedBy ha.nodup hh
      callCount := ?_
      plans := fun plan => Reach.eq_of_mem_plans hplans }
  · rw [hnames, usedBy_reachOf]
    exact List.filter_sublist
  · rintro h hh ⟨_, hreach⟩
    exact exists_reached_callers ha.nodup hh hreach.not_tagged

/-- The calls of every behavior of a partition that does not block, and what is counted for helpers
on the way, are what the tags and the calls between functions say. -/
theorem linked_of_ofFunctions (config : Config) (functions : List FunctionDecl) (p : Partition)
    (h : ofFunctions config functions = .ok p) (hb : p.blocking = false) :
    (∀ b ∈ p.behaviors, Linked functions b) ∧
      ∃ reach, Reach.ofOwners (.ofPairs (Declared.owners functions)) functions = .ok reach ∧
        Counts functions p reach := by
  obtain ⟨ha, hbehaviors, -⟩ := ofFunctions_inv h hb
  refine ⟨fun b hm => ?_, reachOf functions, ofOwners_ownersOf ha.nodup, counts_reachOf h hb⟩
  rw [hbehaviors] at hm
  obtain ⟨name, _, rfl⟩ := List.mem_map.mp hm
  exact linked_assembled ha.nodup

theorem linked_doorAndLamp : ∃ p, ofFunctions {} doorAndLamp = .ok p ∧ p.blocking = false ∧
    (∀ b ∈ p.behaviors, Linked doorAndLamp b) ∧
      ∃ reach, Reach.ofOwners (.ofPairs (Declared.owners doorAndLamp)) doorAndLamp = .ok reach ∧
        Counts doorAndLamp p reach := by
  obtain ⟨p, hp, hb⟩ := exists_doorAndLamp
  exact ⟨p, hp, hb, linked_of_ofFunctions {} doorAndLamp p hp hb⟩

end Partition

end BehaviorPlan
