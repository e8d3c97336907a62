import BehaviorPlan.Proofs.Partition.Content
import BehaviorPlan.Proofs.Partition.Sharing

/-! # Findings on behaviors

The behaviors of a partition have distinct names, so only a missing entry point is an error. With
that the outcome of a partition is known: it always is one, and it is empty if it blocks. -/
namespace BehaviorPlan

/-- A Unity event that the behavior handles: a tag of it declares the event, or the name of one of
its tagged functions, or of a helper that it alone reaches, spells it. -/
inductive HasEvent (functions : List FunctionDecl) (behavior : String) : String → Prop where
  | declared {f : FunctionDecl} {tag : BehaviorTag} {event : String} : f ∈ functions →
      BelongsTo functions f behavior → f.tag = some tag → event ∈ tag.events →
      Name.isUnityEvent event = true → HasEvent functions behavior event
  | tagged {f : FunctionDecl} {event : String} : f ∈ functions → BelongsTo functions f behavior →
      Name.lifecycleEvent? f.name = some event → HasEvent functions behavior event
  | helper {f : FunctionDecl} {event : String} : f ∈ functions →
      ReachesAlone functions behavior f → Name.lifecycleEvent? f.name = some event →
      HasEvent functions behavior event

namespace Partition

variable {config : Config} {functions : List FunctionDecl} {behaviors : List Behavior}

theorem any_isError_completeness (b : Behavior) (others : List Behavior) :
    (completeness config b others).any Finding.isError =
      (b.lifecycleEvents.isEmpty && config.requireEntryPoint || others.any (·.name = b.name)) := by
  unfold completeness
  cases b.lifecycleEvents.isEmpty <;> cases config.requireEntryPoint <;>
    cases others.any (·.name = b.name) <;> cases b.autoSync <;>
    cases Name.networkingEvents.any (b.lifecycleEvents.contains ·) <;> rfl

theorem any_name_eraseIdx (hn : (behaviors.map (·.name)).Nodup) {b : Behavior} {i : Nat}
    (h : (b, i) ∈ behaviors.zipIdx) : (behaviors.eraseIdx i).any (·.name = b.name) = false := by
  rw [List.any_eq_false]
  intro c hc hname
  have hname : c.name = b.name := of_decide_eq_true hname
  obtain ⟨j, hj, hc⟩ := List.mem_eraseIdx_iff_getElem?.mp hc
  have hb : behaviors[i]? = some b := List.mem_zipIdx_iff_getElem?.mp h
  have hi : i < (behaviors.map (·.name)).length := by
    simpa using (List.getElem?_eq_some_iff.mp hb).1
  refine hj ((List.getElem?_inj hi hn).mp ?_).symm
  simp [hb, hc, hname]

theorem exists_error_completeness_iff (hn : (behaviors.map (·.name)).Nodup) :
    (∃ x ∈ behaviors.zipIdx,
        (completeness config x.1 (behaviors.eraseIdx x.2)).any Finding.isError = true) ↔
      config.requireEntryPoint = true ∧ ∃ b ∈ behaviors, b.lifecycleEvents = [] := by
  constructor
  · rintro ⟨⟨b, i⟩, hb, herror⟩
    rw [any_isError_completeness, any_name_eraseIdx hn hb, Bool.or_false, Bool.and_eq_true,
      List.isEmpty_iff] at herror
    have hmem : b ∈ behaviors := List.mem_of_getElem? (List.mem_zipIdx_iff_getElem?.mp hb)
    exact ⟨herror.2, b, hmem, herror.1⟩
  · rintro ⟨hrequire, b, hb, hnone⟩
    obtain ⟨i, hi⟩ := List.getElem?_of_mem hb
    refine ⟨(b, i), List.mem_zipIdx_iff_getElem?.mpr hi, ?_⟩
    rw [any_isError_completeness]
    simp [hrequire, hnone]

/-- Only a missing entry point blocks: one in any behavior if every behavior needs one, and
otherwise the lack of any. -/
theorem blocking_behaviorFindings_iff (hn : (behaviors.map (·.name)).Nodup) :
    (Validation.mk (behaviorFindings config behaviors)).blocking = true ↔
      (∀ b ∈ behaviors, b.lifecycleEvents = []) ∨
        config.requireEntryPoint = true ∧ ∃ b ∈ behaviors, b.lifecycleEvents = [] := by
  have hall : (if behaviors.any fun b => !b.lifecycleEvents.isEmpty then []
      else [noEntryPoint behaviors.length]).any Finding.isError = true ↔
        ∀ b ∈ behaviors, b.lifecycleEvents = [] := by
    split
    · rename_i hany
      obtain ⟨b, hb, hsome⟩ := List.any_eq_true.mp hany
      simp only [List.any_nil, Bool.false_eq_true, false_iff, not_forall]
      exact ⟨b, hb, by simpa using hsome⟩
    · rename_i hnone
      simpa [noEntryPoint, Finding.isError] using hnone
  rw [Validation.blocking, behaviorFindings, List.any_append, Bool.or_eq_true, hall,
    List.any_flatMap, List.any_eq_true, or_comm]
  exact or_congr_right (exists_error_completeness_iff hn)

theorem sound_of_mem_completeness {b : Behavior} {others : List Behavior} {x : Finding}
    (h : x ∈ completeness config b others) : Checked.defect? x = none := by
  simp only [completeness, List.mem_append] at h
  rcases h with (h | h) | h
  all_goals
    split at h
    · rw [List.mem_singleton.mp h, Finding.sound_iff rfl]
      repeat refine append_ne_empty ?_
      decide
    · simp at h

theorem sound_of_mem_behaviorFindings {x : Finding} (h : x ∈ behaviorFindings config behaviors) :
    Checked.defect? x = none := by
  rcases List.mem_append.mp h with h | h
  · obtain ⟨_, _, h⟩ := List.mem_flatMap.mp h
    exact sound_of_mem_completeness h
  · split at h
    · simp at h
    · rw [List.mem_singleton.mp h, Finding.sound_iff rfl]
      unfold noEntryPoint
      dsimp only
      split <;> decide

theorem exists_ofFunctions_of_plans (hvalid : ∀ f ∈ functions, Checked.defect? f = none)
    (hplans : Declared.Accepted config functions →
      (Validation.mk (behaviorFindings config (assembledAll functions))).blocking = false →
        ∃ plans, (reachOf functions).plans functions = .ok plans) :
    ∃ p, ofFunctions config functions = .ok p := by
  by_cases ha : Declared.Accepted config functions
  · have hfindings : checkedAll (behaviorFindings config (assembledAll functions)) =
        .ok (behaviorFindings config (assembledAll functions)) :=
      checkedAll_of_sound fun _ => sound_of_mem_behaviorFindings
    rw [ofFunctions_of_accepted ha, buildBehaviors_eq_ok ha hvalid]
    simp only [bind, Except.bind, hfindings]
    split
    · exact ⟨_, checked_of_sound (by simp [Checked.defect?])⟩
    · rename_i hblocking
      obtain ⟨plans, hplans⟩ := hplans ha (Bool.eq_false_iff.mpr hblocking)
      rw [hplans]
      exact ⟨_, checked_of_sound (by simp [Checked.defect?, hblocking])⟩
  · exact ⟨_, ofFunctions_of_findings ha⟩

/-- Valid functions always have a partition, as long as their number is in the range of
doubles. -/
theorem exists_ofFunctions_eq_ok (config : Config)
    (hvalid : ∀ f ∈ functions, Checked.defect? f = none)
    (hbound : Double.Holds functions.length) : ∃ p, ofFunctions config functions = .ok p :=
  exists_ofFunctions_of_plans hvalid fun ha _ => exists_plans_eq_ok ha.nodup hvalid hbound

/-- The lifecycle events of an assembled behavior are just those that its functions give it. -/
theorem mem_lifecycleEvents_assembled (hn : (functions.map (·.name)).Nodup) {name event : String} :
    event ∈ (assembled functions (ownersOf functions) (reachOf functions) name).lifecycleEvents ↔
      HasEvent functions name event := by
  rw [Behavior.lifecycleEvents, List.mem_eraseDups, List.mem_append, List.mem_filter]
  constructor
  · rintro (⟨hevent, hunity⟩ | hhook)
    · obtain ⟨tag, ⟨f, hf, hhome, htag⟩, hevent⟩ := (mem_events_assembled hn).mp hevent
      exact .declared hf hhome htag hevent hunity
    · obtain ⟨m, hm, hevent⟩ := List.mem_filterMap.mp hhook
      obtain ⟨f, hown, rfl⟩ := List.mem_map.mp hm
      rw [Member.ofFunction_event?] at hevent
      have hf := functionsOf_subset hn hown
      rcases (mem_functionsOf hn hf).mp hown with hhome | halone
      · exact .tagged hf (belongsTo_iff.mpr hhome) hevent
      · exact .helper hf halone hevent
  · intro h
    have hhook : ∀ f ∈ functionsOf functions (ownersOf functions) (reachOf functions) name,
        Name.lifecycleEvent? f.name = some event → event ∈
          (assembled functions (ownersOf functions) (reachOf functions) name).members.filterMap
            (·.event?) := by
      intro f hown hevent
      rw [← Member.ofFunction_event?] at hevent
      exact List.mem_filterMap.mpr ⟨Member.ofFunction f, List.mem_map_of_mem hown, hevent⟩
    cases h with
    | declared hf hhome htag hevent hunity =>
      have htags : TagOf functions name _ := ⟨_, hf, hhome, htag⟩
      exact Or.inl ⟨(mem_events_assembled hn).mpr ⟨_, htags, hevent⟩, hunity⟩
    | tagged hf hhome hevent =>
      have hown := (mem_functionsOf hn hf).mpr (Or.inl (belongsTo_iff.mp hhome))
      exact Or.inr (hhook _ hown hevent)
    | helper hf halone hevent =>
      have hown := (mem_functionsOf hn hf).mpr (Or.inr halone)
      exact Or.inr (hhook _ hown hevent)

theorem lifecycleEvents_ne_nil_of_mem_assembledAll (hn : (functions.map (·.name)).Nodup)
    (hevents : ∀ f ∈ functions, ∀ tag, f.tag = some tag →
      ∃ event ∈ tag.events, Name.isUnityEvent event = true) {b : Behavior}
    (hb : b ∈ assembledAll functions) : b.lifecycleEvents ≠ [] := by
  obtain ⟨name, hname, rfl⟩ := List.mem_map.mp hb
  obtain ⟨f, hf, hhome⟩ := mem_homes.mp hname
  obtain ⟨tag, htag, _⟩ := Option.map_eq_some_iff.mp hhome
  obtain ⟨event, hevent, hunity⟩ := hevents f hf tag htag
  have hhas : HasEvent functions name event :=
    .declared hf (belongsTo_iff.mpr hhome) htag hevent hunity
  exact List.ne_nil_of_mem ((mem_lifecycleEvents_assembled hn).mpr hhas)

theorem assembledAll_ne_nil (htagged : ∃ f ∈ functions, f.isTagged = true) :
    assembledAll functions ≠ [] := by
  obtain ⟨f, hf, htag⟩ := htagged
  obtain ⟨name, hhome⟩ := @exists_homeOf functions f htag
  have hname : name ∈ homes functions := mem_homes.mpr ⟨f, hf, hhome⟩
  exact List.map_eq_nil_iff.not.mpr (List.ne_nil_of_mem hname)

theorem nodup_names_assembledAll : ((assembledAll functions).map (·.name)).Nodup := by
  rw [names_assembledAll]
  exact nodup_eraseDups _

theorem exists_ofFunctions_not_blocking (ha : Declared.Accepted config functions)
    (hvalid : ∀ f ∈ functions, Checked.defect? f = none) (hbound : Double.Holds functions.length)
    (htagged : ∃ f ∈ functions, f.isTagged = true)
    (hevents : ∀ f ∈ functions, ∀ tag, f.tag = some tag →
      ∃ event ∈ tag.events, Name.isUnityEvent event = true) :
    ∃ p, ofFunctions config functions = .ok p ∧ p.blocking = false := by
  obtain ⟨p, hp⟩ := exists_ofFunctions_eq_ok config hvalid hbound
  refine ⟨p, hp, ?_⟩
  have hentry : ∀ b ∈ assembledAll functions, b.lifecycleEvents ≠ [] := fun b hb =>
    lifecycleEvents_ne_nil_of_mem_assembledAll ha.nodup hevents hb
  rw [blocking_of_accepted ha hp, ← Bool.not_eq_true,
    blocking_behaviorFindings_iff nodup_names_assembledAll]
  rintro (hall | ⟨_, b, hb, hnone⟩)
  · obtain ⟨b, hb⟩ := List.exists_mem_of_ne_nil _ (assembledAll_ne_nil htagged)
    exact hentry b hb (hall b hb)
  · exact hentry b hb hnone

/-- Two behaviors with a helper of the one, a helper of both and one of none. -/
def doorAndLamp : List FunctionDecl :=
  [{ name := "open_door", tag := some { name := some "Door" }, calls := ["unlock", "log"] },
    { name := "unlock", visibility := .privately, calls := ["unlock"] },
    { name := "switch_lamp", tag := some { name := some "Lamp" }, calls := ["log", "open_door"] },
    { name := "log" },
    { name := "leftover", calls := ["log"] }]

theorem accepted_doorAndLamp : Declared.Accepted {} doorAndLamp :=
  Declared.findings_eq_nil_iff.mp (by decide)

theorem sound_doorAndLamp : ∀ f ∈ doorAndLamp, Checked.defect? f = none := by
  decide

theorem holds_length_doorAndLamp : Double.Holds doorAndLamp.length :=
  Double.holds_two_pow.mono (Double.le_two_pow (by decide))

theorem exists_doorAndLamp : ∃ p, ofFunctions {} doorAndLamp = .ok p ∧ p.blocking = false :=
  exists_ofFunctions_not_blocking accepted_doorAndLamp sound_doorAndLamp holds_length_doorAndLamp
    (by decide) (by decide)

end Partition

end BehaviorPlan
