import BehaviorPlan.Proofs.Partition.Calls

/-! # Assembling behaviors

Every behavior is what its functions make it. With accepted declarations nothing that is checked on
the way is refused, and the findings on the behaviors decide whether there is a partition. -/
namespace BehaviorPlan

namespace Partition

/-- The behavior that its functions make up. -/
def assembled (functions : List FunctionDecl) (owners : Table String) (reach : Reach)
    (name : String) : Behavior :=
  let own := functionsOf functions owners reach name
  let tags := own.filterMap (·.tag)
  { name
    members := own.map Member.ofFunction
    calls := mergeCalls (tags.flatMap declaredCalls ++ reach.inferredCalls name)
    events := (tags.flatMap (·.events)).eraseDups
    autoSync := tags.any (·.autoSync) }

section Build

variable {functions : List FunctionDecl} {owners : Table String} {reach : Reach}

theorem buildBehavior_eq_ok_iff {name : String} {b : Behavior} :
    buildBehavior functions owners reach name = .ok b ↔
      b = assembled functions owners reach name ∧
      (∀ c ∈ ((functionsOf functions owners reach name).filterMap (·.tag)).flatMap declaredCalls ++
        reach.inferredCalls name, Checked.defect? c = none) ∧
      (∀ m ∈ (functionsOf functions owners reach name).map Member.ofFunction,
        Checked.defect? m = none) ∧
      Checked.defect? (assembled functions owners reach name) = none := by
  simp only [buildBehavior, Outcome.bind_eq_ok_iff, checkedAll_eq_ok_iff, checked_eq_ok_iff]
  constructor
  · rintro ⟨_, ⟨hc, rfl⟩, _, ⟨hm, rfl⟩, hb, rfl⟩
    exact ⟨rfl, hc, hm, hb⟩
  · rintro ⟨rfl, hc, hm, hb⟩
    exact ⟨_, ⟨hc, rfl⟩, _, ⟨hm, rfl⟩, hb, rfl⟩

theorem eq_map_assembled {names : List String} {bs : List Behavior}
    (h : names.mapM (buildBehavior functions owners reach) = .ok bs) :
    bs = names.map (assembled functions owners reach) := by
  rw [Outcome.mapM_eq_ok_iff] at h
  rw [← List.forall₂_eq_eq_eq, List.forall₂_map_right_iff]
  exact (h.imp fun _ _ hb => (buildBehavior_eq_ok_iff.mp hb).1).flip

end Build

section Members

variable {functions : List FunctionDecl} (hn : (functions.map (·.name)).Nodup)

include hn

/-- Tagged functions of the behavior, then the helpers that it alone reaches. -/
theorem functionsOf_eq (behavior : String) :
    functionsOf functions (ownersOf functions) (reachOf functions) behavior =
      functions.filter (fun f => homeOf functions f = some behavior) ++
        functions.filter (fun f => (reachOf functions).usedBy f.name = [behavior]) := by
  rw [functionsOf]
  congr 1
  exact List.filter_congr fun f hf => by rw [get?_ownersOf hn hf]

theorem mem_functionsOf {f : FunctionDecl} (hf : f ∈ functions) {behavior : String} :
    f ∈ functionsOf functions (ownersOf functions) (reachOf functions) behavior ↔
      homeOf functions f = some behavior ∨ ReachesAlone functions behavior f := by
  simp [functionsOf_eq hn, hf, usedBy_eq_singleton_iff hn hf]

theorem functionsOf_subset {f : FunctionDecl} {behavior : String}
    (hf : f ∈ functionsOf functions (ownersOf functions) (reachOf functions) behavior) :
    f ∈ functions := by
  rw [functionsOf_eq hn, List.mem_append, List.mem_filter, List.mem_filter] at hf
  exact hf.elim And.left And.left

theorem mem_functionsOf_iff {f : FunctionDecl} {behavior : String} :
    f ∈ functionsOf functions (ownersOf functions) (reachOf functions) behavior ↔
      f ∈ functions ∧ (BelongsTo functions f behavior ∨ ReachesAlone functions behavior f) := by
  rw [belongsTo_iff]
  constructor
  · intro hown
    have hf := functionsOf_subset hn hown
    exact ⟨hf, (mem_functionsOf hn hf).mp hown⟩
  · rintro ⟨hf, h⟩
    exact (mem_functionsOf hn hf).mpr h

/-- A tagged function is no helper, so no function is taken twice. -/
theorem functionsOf_nodup (behavior : String) :
    ((functionsOf functions (ownersOf functions) (reachOf functions) behavior).map
      (·.name)).Nodup := by
  have hdistinct : functions.Nodup := List.Nodup.of_map _ hn
  refine List.Nodup.map_on (fun f hf g hg => List.inj_on_of_nodup_map hn (functionsOf_subset hn hf)
    (functionsOf_subset hn hg)) ?_
  rw [functionsOf_eq hn]
  refine (hdistinct.filter _).append (hdistinct.filter _) fun f hf hg => ?_
  simp only [List.mem_filter, decide_eq_true_eq] at hf hg
  have hreach := ((usedBy_eq_singleton_iff hn hg.1).mp hg.2).1
  simp [homeOf_eq_none_iff.mpr hreach.not_tagged] at hf

end Members

section Sound

variable {config : Config} {functions : List FunctionDecl}

theorem nameProblem?_of_mem_homes (h : Declared.Accepted config functions) {behavior : String}
    (hb : behavior ∈ homes functions) : Declared.nameProblem? config behavior = none := by
  obtain ⟨f, hf, hhome⟩ := mem_homes.mp hb
  obtain ⟨tag, htag, rfl⟩ := Option.map_eq_some_iff.mp hhome
  exact (h.legal f hf tag htag).1

theorem sound_of_mem_declaredCalls {behavior function : String} {tag : BehaviorTag} {c : Call}
    (h : Declared.tagProblems behavior function tag = []) (hc : c ∈ declaredCalls tag) :
    Checked.defect? c = none := by
  have hadmissible := Declared.tagProblems_eq_nil_iff.mp h
  simp only [declaredCalls, List.mem_append, List.mem_map] at hc
  rcases hc with ⟨name, hm, rfl⟩ | ⟨name, hm, rfl⟩
  · have hidentifier := (hadmissible.dependencies name hm).1.1
    exact blank?_eq_none_iff.mpr (Name.ne_empty_of_isIdentifier hidentifier)
  · have hidentifier := hadmissible.eventTargets name hm
    exact blank?_eq_none_iff.mpr (Name.ne_empty_of_isIdentifier hidentifier)

theorem target_mem_homes_of_mem_inferredCalls (hn : (functions.map (·.name)).Nodup)
    {behavior : String} {c : Call} (hc : c ∈ (reachOf functions).inferredCalls behavior) :
    c.target ∈ homes functions := by
  have huse : (c.target, c.kind) ∈ ((reachOf functions).inferredCalls behavior).map Call.use :=
    List.mem_map_of_mem hc
  obtain ⟨-, -, _, _, f, hf, hbelongs, -⟩ := (mem_use_inferredCalls hn).mp huse
  exact mem_homes.mpr ⟨f, hf, belongsTo_iff.mp hbelongs⟩

theorem memberNames_assembled (name : String) :
    (assembled functions (ownersOf functions) (reachOf functions) name).memberNames =
      (functionsOf functions (ownersOf functions) (reachOf functions) name).map (·.name) := by
  simp [assembled, Behavior.memberNames, Function.comp_def]

theorem buildBehavior_eq_ok (h : Declared.Accepted config functions)
    (hvalid : ∀ f ∈ functions, Checked.defect? f = none) {name : String}
    (hname : name ∈ homes functions) :
    buildBehavior functions (ownersOf functions) (reachOf functions) name =
      .ok (assembled functions (ownersOf functions) (reachOf functions) name) := by
  have hidentifier : ∀ {b}, b ∈ homes functions → Name.isIdentifier b = true := fun hb =>
    Name.isIdentifier_of_isClassName
      (Declared.nameProblem?_eq_none_iff.mp (nameProblem?_of_mem_homes h hb)).1
  refine buildBehavior_eq_ok_iff.mpr ⟨rfl, fun c hc => ?_, fun m hm => ?_, ?_⟩
  · rcases List.mem_append.mp hc with hc | hc
    · obtain ⟨tag, htag, hc⟩ := List.mem_flatMap.mp hc
      obtain ⟨f, hf, htag⟩ := List.mem_filterMap.mp htag
      exact sound_of_mem_declaredCalls (h.legal f (functionsOf_subset h.nodup hf) tag htag).2 hc
    · have htarget := hidentifier (target_mem_homes_of_mem_inferredCalls h.nodup hc)
      exact blank?_eq_none_iff.mpr (Name.ne_empty_of_isIdentifier htarget)
  · obtain ⟨f, hf, rfl⟩ := List.mem_map.mp hm
    exact hvalid f (functionsOf_subset h.nodup hf)
  · have hrepeat : firstRepeat? []
        (assembled functions (ownersOf functions) (reachOf functions) name).memberNames = none := by
      rw [firstRepeat?_eq_none_iff, memberNames_assembled]
      exact ⟨functionsOf_nodup h.nodup name, by simp⟩
    have hname := hidentifier hname
    simp only [Checked.defect?, hrepeat, Option.or_eq_none_iff, blank?_eq_none_iff,
      defectIf_eq_none_iff, Option.map_none, and_true]
    exact ⟨Name.ne_empty_of_isIdentifier hname, by simpa [assembled] using hname⟩

theorem homes_eq (hn : (functions.map (·.name)).Nodup) :
    (functions.filterMap fun f => (ownersOf functions).get? f.name).eraseDups =
      homes functions := by
  rw [homes]
  congr 1
  exact List.filterMap_congr fun f hf => get?_ownersOf hn hf

def assembledAll (functions : List FunctionDecl) : List Behavior :=
  (homes functions).map (assembled functions (ownersOf functions) (reachOf functions))

theorem names_assembledAll : (assembledAll functions).map (·.name) = homes functions := by
  simp [assembledAll, assembled, Function.comp_def]

/-- Only behaviors reach helpers, so no helper is placed elsewhere. -/
theorem placeHelper_eq_ok (hn : (functions.map (·.name)).Nodup) {f : FunctionDecl}
    (hf : f ∈ functions) : placeHelper (homes functions) (reachOf functions) f = .ok () := by
  unfold placeHelper
  split
  · rename_i behavior huser
    have hreaches := ((usedBy_eq_singleton_iff hn hf).mp huser).1
    rw [if_pos hreaches.mem_homes]
  · rfl

theorem buildBehaviors_eq (hn : (functions.map (·.name)).Nodup) :
    buildBehaviors functions (ownersOf functions) (reachOf functions) =
      (homes functions).mapM (buildBehavior functions (ownersOf functions) (reachOf functions)) := by
  have hplaced := Outcome.mapM_eq_ok_map fun f hf => placeHelper_eq_ok hn hf
  rw [buildBehaviors, homes_eq hn]
  simp only [hplaced]
  rfl

theorem buildBehaviors_eq_ok (h : Declared.Accepted config functions)
    (hvalid : ∀ f ∈ functions, Checked.defect? f = none) :
    buildBehaviors functions (ownersOf functions) (reachOf functions) =
      .ok (assembledAll functions) := by
  rw [buildBehaviors_eq h.nodup]
  exact Outcome.mapM_eq_ok_map fun name hname => buildBehavior_eq_ok h hvalid hname

theorem eq_assembledAll (hn : (functions.map (·.name)).Nodup) {bs : List Behavior}
    (h : buildBehaviors functions (ownersOf functions) (reachOf functions) = .ok bs) :
    bs = assembledAll functions := by
  rw [buildBehaviors_eq hn] at h
  exact eq_map_assembled h

end Sound

section OfFunctions

variable {config : Config} {functions : List FunctionDecl} {p : Partition}

theorem blocking_findings_of_not_accepted (h : ¬ Declared.Accepted config functions) :
    (Validation.mk (Declared.findings config functions)).blocking = true := by
  rw [← Bool.not_eq_false, Declared.blocking_findings_iff, Declared.findings_eq_nil_iff]
  exact h

theorem ofFunctions_of_findings (h : ¬ Declared.Accepted config functions) :
    ofFunctions config functions = .ok ⟨[], [], [], ⟨Declared.findings config functions⟩⟩ := by
  have hblocking := blocking_findings_of_not_accepted h
  rw [ofFunctions, checkedAll_of_sound fun _ => Declared.sound_of_mem_findings]
  simp [bind, Except.bind, hblocking, failed, checked_of_sound, Checked.defect?, defectIf]

theorem ofFunctions_of_accepted (h : Declared.Accepted config functions) :
    ofFunctions config functions = (do
      let behaviors ← buildBehaviors functions (ownersOf functions) (reachOf functions)
      let findings ← checkedAll (behaviorFindings config behaviors)
      if (Validation.mk findings).blocking then failed findings
      else
        let plans ← (reachOf functions).plans functions
        checked ⟨behaviors, (reachOf functions).shared functions, plans, ⟨findings⟩⟩) := by
  rw [ofFunctions, Declared.findings_eq_nil_iff.mpr h, checkedAll_of_sound (by simp)]
  change (do
    let reach ← Reach.ofOwners (ownersOf functions) functions
    _) = _
  rw [ofOwners_ownersOf h.nodup]
  rfl

/-- The three ways in which a partition ends: refused declarations, behaviors that block, or all
behaviors with the plans for what they share. -/
theorem ofFunctions_cases (h : ofFunctions config functions = .ok p) :
    (¬ Declared.Accepted config functions ∧
      p = ⟨[], [], [], ⟨Declared.findings config functions⟩⟩) ∨
    (Declared.Accepted config functions ∧
      (Validation.mk (behaviorFindings config (assembledAll functions))).blocking = true ∧
      p = ⟨[], [], [], ⟨behaviorFindings config (assembledAll functions)⟩⟩) ∨
    (Declared.Accepted config functions ∧
      (Validation.mk (behaviorFindings config (assembledAll functions))).blocking = false ∧
      ∃ plans, (reachOf functions).plans functions = .ok plans ∧
        p = ⟨assembledAll functions, (reachOf functions).shared functions, plans,
          ⟨behaviorFindings config (assembledAll functions)⟩⟩) := by
  by_cases ha : Declared.Accepted config functions
  · rw [ofFunctions_of_accepted ha] at h
    obtain ⟨bs, hbs, h⟩ := Outcome.bind_eq_ok_iff.mp h
    obtain rfl := eq_assembledAll ha.nodup hbs
    obtain ⟨findings, hf, h⟩ := Outcome.bind_eq_ok_iff.mp h
    obtain ⟨_, rfl⟩ := checkedAll_eq_ok_iff.mp hf
    split at h
    · rename_i hblocking
      obtain ⟨_, rfl⟩ := checked_eq_ok_iff.mp h
      exact Or.inr (Or.inl ⟨ha, hblocking, rfl⟩)
    · rename_i hblocking
      obtain ⟨plans, hp, h⟩ := Outcome.bind_eq_ok_iff.mp h
      obtain ⟨_, rfl⟩ := checked_eq_ok_iff.mp h
      exact Or.inr (Or.inr ⟨ha, Bool.eq_false_iff.mpr hblocking, plans, hp, rfl⟩)
  · rw [ofFunctions_of_findings ha] at h
    exact Or.inl ⟨ha, (Except.ok.inj h).symm⟩

theorem ofFunctions_inv (h : ofFunctions config functions = .ok p) (hb : p.blocking = false) :
    Declared.Accepted config functions ∧ p.behaviors = assembledAll functions ∧
      p.sharedFunctions = (reachOf functions).shared functions ∧
      (reachOf functions).plans functions = .ok p.plans ∧
      p.validation = ⟨behaviorFindings config p.behaviors⟩ := by
  rcases ofFunctions_cases h with ⟨ha, rfl⟩ | ⟨_, hblocking, rfl⟩ | ⟨ha, _, plans, hplans, rfl⟩
  · exact absurd (hb.symm.trans (blocking_findings_of_not_accepted ha)) Bool.false_ne_true
  · exact absurd (hb.symm.trans hblocking) Bool.false_ne_true
  · exact ⟨ha, rfl, rfl, hplans, rfl⟩

theorem eq_empty_of_blocking (h : ofFunctions config functions = .ok p) (hb : p.blocking = true) :
    p.behaviors = [] ∧ p.sharedFunctions = [] ∧ p.plans = [] := by
  rcases ofFunctions_cases h with ⟨_, rfl⟩ | ⟨_, _, rfl⟩ | ⟨_, hnot, _, _, rfl⟩
  · exact ⟨rfl, rfl, rfl⟩
  · exact ⟨rfl, rfl, rfl⟩
  · exact absurd (hnot.symm.trans hb) Bool.false_ne_true

/-- The findings on the behaviors decide whether a partition of accepted functions blocks. -/
theorem blocking_of_accepted (ha : Declared.Accepted config functions)
    (h : ofFunctions config functions = .ok p) : p.blocking =
      (Validation.mk (behaviorFindings config (assembledAll functions))).blocking := by
  rcases ofFunctions_cases h with ⟨hnot, _⟩ | ⟨_, _, rfl⟩ | ⟨_, _, _, _, rfl⟩
  · exact absurd ha hnot
  · rfl
  · rfl

end OfFunctions

end Partition

end BehaviorPlan
