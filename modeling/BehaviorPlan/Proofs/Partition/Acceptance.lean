import BehaviorPlan.Proofs.Partition.Entry

/-! # Which functions can be partitioned

A partition blocks for one of five reasons, all of which can be told from the declared functions
alone. One that blocks is empty. That two behaviors have one name is never among the reasons, as
functions of one behavior name are put into one behavior. -/
namespace BehaviorPlan

/-- Functions from which a partition can be made. -/
structure Partitionable (config : Config) (functions : List FunctionDecl) : Prop where
  names_nodup : (functions.map (·.name)).Nodup
  behavior_names : ∀ f ∈ functions, ∀ name, BelongsTo functions f name →
    Name.isClassName name = true ∧ name ∉ config.reservedNames
  tags : ∀ f ∈ functions, ∀ name, BelongsTo functions f name → ∀ tag, f.tag = some tag →
    Declared.Admissible name tag
  some_entry : ∃ name event, HasEvent functions name event
  every_entry : config.requireEntryPoint = true → ∀ f ∈ functions, ∀ name,
    BelongsTo functions f name → ∃ event, HasEvent functions name event

variable {config : Config} {functions : List FunctionDecl}

theorem Declared.accepted_iff : Accepted config functions ↔
    (functions.map (·.name)).Nodup ∧ ∀ f ∈ functions, ∀ name, BelongsTo functions f name →
      (Name.isClassName name = true ∧ name ∉ config.reservedNames) ∧
        ∀ tag, f.tag = some tag → Admissible name tag := by
  constructor
  · intro h
    refine ⟨h.nodup, fun f hf name hname => ?_⟩
    obtain ⟨tag, htag, rfl⟩ := Option.map_eq_some_iff.mp (belongsTo_iff.mp hname)
    obtain ⟨hproblem, htags⟩ := h.legal f hf tag htag
    refine ⟨nameProblem?_eq_none_iff.mp hproblem, fun tag' htag' => ?_⟩
    obtain rfl := Option.some.inj (htag.symm.trans htag')
    exact tagProblems_eq_nil_iff.mp htags
  · rintro ⟨hn, h⟩
    refine ⟨hn, fun f hf tag htag => ?_⟩
    have hhome : homeOf functions f =
        some (behaviorName (explicitNames functions) f.name tag.name) := by
      rw [homeOf, htag, Option.map_some]
    obtain ⟨hname, hadmissible⟩ := h f hf _ (belongsTo_iff.mpr hhome)
    exact ⟨nameProblem?_eq_none_iff.mpr hname, tagProblems_eq_nil_iff.mpr (hadmissible tag htag)⟩

theorem Partitionable.accepted (h : Partitionable config functions) :
    Declared.Accepted config functions :=
  Declared.accepted_iff.mpr ⟨h.names_nodup, fun f hf name hname =>
    ⟨h.behavior_names f hf name hname, h.tags f hf name hname⟩⟩

theorem HasEvent.mem_homes {name event : String} (h : HasEvent functions name event) :
    name ∈ homes functions := by
  cases h with
  | declared hf hhome => exact BehaviorPlan.mem_homes.mpr ⟨_, hf, belongsTo_iff.mp hhome⟩
  | tagged hf hhome => exact BehaviorPlan.mem_homes.mpr ⟨_, hf, belongsTo_iff.mp hhome⟩
  | helper _ halone => exact halone.1.mem_homes

namespace Partition

section Entries

variable (hn : (functions.map (·.name)).Nodup)

include hn

theorem lifecycleEvents_assembled_eq_nil_iff {name : String} :
    (assembled functions (ownersOf functions) (reachOf functions) name).lifecycleEvents = [] ↔
      ∀ event, ¬ HasEvent functions name event := by
  rw [List.eq_nil_iff_forall_not_mem]
  exact forall_congr' fun event => not_congr (mem_lifecycleEvents_assembled hn)

theorem lifecycleEvents_eq_nil_iff_of_all :
    (∀ b ∈ assembledAll functions, b.lifecycleEvents = []) ↔
      ∀ name event, ¬ HasEvent functions name event := by
  simp only [assembledAll, List.forall_mem_map, lifecycleEvents_assembled_eq_nil_iff hn]
  constructor
  · intro h name event hevent
    exact h name hevent.mem_homes event hevent
  · intro h name _
    exact h name

theorem exists_lifecycleEvents_eq_nil_iff :
    (∃ b ∈ assembledAll functions, b.lifecycleEvents = []) ↔
      ∃ f ∈ functions, ∃ name, BelongsTo functions f name ∧
        ∀ event, ¬ HasEvent functions name event := by
  simp only [assembledAll, List.mem_map, exists_exists_and_eq_and,
    lifecycleEvents_assembled_eq_nil_iff hn, mem_homes, belongsTo_iff]
  constructor
  · rintro ⟨name, ⟨f, hf, hhome⟩, hnone⟩
    exact ⟨f, hf, name, hhome, hnone⟩
  · rintro ⟨f, hf, name, hhome, hnone⟩
    exact ⟨name, ⟨f, hf, hhome⟩, hnone⟩

end Entries

theorem partitionable_iff : Partitionable config functions ↔
    Declared.Accepted config functions ∧
      (Validation.mk (behaviorFindings config (assembledAll functions))).blocking = false := by
  have hblocking : Declared.Accepted config functions →
      ((Validation.mk (behaviorFindings config (assembledAll functions))).blocking = false ↔
        (∃ name event, HasEvent functions name event) ∧
          (config.requireEntryPoint = true → ∀ f ∈ functions, ∀ name,
            BelongsTo functions f name → ∃ event, HasEvent functions name event)) := by
    intro ha
    rw [← Bool.not_eq_true, blocking_behaviorFindings_iff nodup_names_assembledAll,
      lifecycleEvents_eq_nil_iff_of_all ha.nodup, exists_lifecycleEvents_eq_nil_iff ha.nodup]
    push Not
    rfl
  constructor
  · intro h
    exact ⟨h.accepted, (hblocking h.accepted).mpr ⟨h.some_entry, h.every_entry⟩⟩
  · rintro ⟨ha, hfindings⟩
    obtain ⟨hn, hlegal⟩ := Declared.accepted_iff.mp ha
    obtain ⟨hsome, hevery⟩ := (hblocking ha).mp hfindings
    exact
      { names_nodup := hn
        behavior_names := fun f hf name hname => (hlegal f hf name hname).1
        tags := fun f hf name hname => (hlegal f hf name hname).2
        some_entry := hsome
        every_entry := hevery }

variable {p : Partition}

/-- A partition blocks unless it can be made of its functions. -/
theorem blocking_eq_false_iff (h : ofFunctions config functions = .ok p) :
    p.blocking = false ↔ Partitionable config functions := by
  rw [partitionable_iff]
  constructor
  · intro hb
    have ha := (ofFunctions_inv h hb).1
    exact ⟨ha, (blocking_of_accepted ha h).symm.trans hb⟩
  · rintro ⟨ha, hfindings⟩
    exact (blocking_of_accepted ha h).trans hfindings

section Collisions

/-- The message that more than one behavior has a name. -/
def takenMessage (name : String) : String :=
  s!"Behavior name '{name}' is used by more than one behavior"

def otherEnds : List String :=
  ["once", "empty", "keyword", "identifier", "class", "'", "name", "itself", "point)", "hook",
    "attribute"]

def EndsOtherwise (text : String) : Prop :=
  ∃ ending ∈ otherEnds, ending.toList <:+ text.toList

theorem suffix_append {text tail : String} {ending : List Char} (h : ending <:+ tail.toList) :
    ending <:+ (text ++ tail).toList := by
  rw [String.toList_append]
  exact h.trans (List.suffix_append _ _)

theorem EndsOtherwise.ne_takenMessage {text : String} (h : EndsOtherwise text) (name : String) :
    text ≠ takenMessage name := by
  rintro rfl
  obtain ⟨ending, hmem, hend⟩ := h
  have htaken : "behavior".toList <:+ (takenMessage name).toList := suffix_append (by decide)
  have hdiffer : ∀ e ∈ otherEnds, ¬ e.toList <:+ "behavior".toList ∧
      ¬ "behavior".toList <:+ e.toList := by decide
  -- Of two ends of one text one is an end of the other.
  rcases List.suffix_or_suffix_of_suffix hend htaken with hsuffix | hsuffix
  · exact (hdiffer ending hmem).1 hsuffix
  · exact (hdiffer ending hmem).2 hsuffix

theorem endsOtherwise_of_nameProblem? {name : String} {problem : String × String}
    (h : Declared.nameProblem? config name = some problem) : EndsOtherwise problem.1 := by
  unfold Declared.nameProblem? at h
  split_ifs at h
  · obtain rfl := Option.some.inj h
    exact ⟨"empty", by simp [otherEnds], by decide⟩
  · obtain rfl := Option.some.inj h
    exact ⟨"keyword", by simp [otherEnds], suffix_append (by decide)⟩
  · obtain rfl := Option.some.inj h
    exact ⟨"identifier", by simp [otherEnds], suffix_append (by decide)⟩
  · obtain rfl := Option.some.inj h
    exact ⟨"class", by simp [otherEnds], suffix_append (by decide)⟩

theorem endsOtherwise_of_mem_tagProblems {behavior function : String} {tag : BehaviorTag}
    {problem : Declared.TagProblem} (h : problem ∈ Declared.tagProblems behavior function tag) :
    EndsOtherwise problem.1 := by
  simp only [Declared.tagProblems, List.mem_append, List.mem_filterMap] at h
  rcases h with (⟨event, _, h⟩ | ⟨dependency, _, h⟩) | ⟨target, _, h⟩
  · unfold Declared.eventProblem? at h
    split_ifs at h
    obtain rfl := Option.some.inj h
    exact ⟨"'", by simp [otherEnds], suffix_append (by decide)⟩
  · unfold Declared.dependencyProblem? at h
    split_ifs at h
    · obtain rfl := Option.some.inj h
      exact ⟨"'", by simp [otherEnds], suffix_append (by decide)⟩
    · obtain rfl := Option.some.inj h
      exact ⟨"name", by simp [otherEnds], suffix_append (by decide)⟩
    · obtain rfl := Option.some.inj h
      exact ⟨"itself", by simp [otherEnds], suffix_append (by decide)⟩
  · unfold Declared.eventTargetProblem? at h
    split_ifs at h
    · obtain rfl := Option.some.inj h
      exact ⟨"'", by simp [otherEnds], suffix_append (by decide)⟩
    · obtain rfl := Option.some.inj h
      exact ⟨"name", by simp [otherEnds], suffix_append (by decide)⟩

theorem endsOtherwise_of_mem_findings {x : Finding}
    (h : x ∈ Declared.findings config functions) : EndsOtherwise x.message := by
  cases Declared.tells_of_mem_findings h with
  | repeated function => exact ⟨"once", by simp [otherEnds], suffix_append (by decide)⟩
  | name hproblem => exact endsOtherwise_of_nameProblem? hproblem
  | tag hproblem => exact endsOtherwise_of_mem_tagProblems hproblem

theorem endsOtherwise_of_mem_completeness {b : Behavior} {others : List Behavior} {x : Finding}
    (hothers : others.any (·.name = b.name) = false) (h : x ∈ completeness config b others) :
    EndsOtherwise x.message := by
  simp only [completeness, hothers, List.mem_append] at h
  rcases h with (h | h) | h
  · split at h
    · rw [List.mem_singleton.mp h]
      exact ⟨"point)", by simp [otherEnds], suffix_append (by decide)⟩
    · simp at h
  · simp at h
  · split at h
    · rw [List.mem_singleton.mp h]
      exact ⟨"hook", by simp [otherEnds], suffix_append (by decide)⟩
    · simp at h

theorem endsOtherwise_noEntryPoint (count : Nat) : EndsOtherwise (noEntryPoint count).message := by
  unfold noEntryPoint
  dsimp only
  split
  · exact ⟨"attribute", by simp [otherEnds], by decide⟩
  · exact ⟨"point)", by simp [otherEnds], by decide⟩

/-- No finding of a partition says that a behavior's name is taken. -/
theorem message_ne_takenMessage (h : ofFunctions config functions = .ok p) {x : Finding}
    (hx : x ∈ p.validation.findings) (name : String) : x.message ≠ takenMessage name := by
  have hdeclared : ∀ y ∈ Declared.findings config functions, EndsOtherwise y.message :=
    fun _ => endsOtherwise_of_mem_findings
  have hbehaviors : ∀ y ∈ behaviorFindings config (assembledAll functions),
      EndsOtherwise y.message := by
    intro y hy
    rcases List.mem_append.mp hy with hy | hy
    · obtain ⟨⟨b, i⟩, hb, hy⟩ := List.mem_flatMap.mp hy
      have hothers := any_name_eraseIdx nodup_names_assembledAll hb
      exact endsOtherwise_of_mem_completeness hothers hy
    · split at hy
      · simp at hy
      · rw [List.mem_singleton.mp hy]
        exact endsOtherwise_noEntryPoint _
  rcases ofFunctions_cases h with ⟨_, rfl⟩ | ⟨_, _, rfl⟩ | ⟨_, _, _, _, rfl⟩
  · exact (hdeclared x hx).ne_takenMessage name
  · exact (hbehaviors x hx).ne_takenMessage name
  · exact (hbehaviors x hx).ne_takenMessage name

end Collisions

/-- A partition of declared functions does not block exactly if it can be made of them; if it blocks
there is nothing in it, and never because of a name that two behaviors have. There is a partition of
any valid functions, as long as their number is in the range of doubles. -/
theorem partitionable_iff_of_ofFunctions (config : Config) (functions : List FunctionDecl) :
    (∀ p, ofFunctions config functions = .ok p →
      (p.blocking = false ↔ Partitionable config functions) ∧
      (p.blocking = true → p.behaviors = [] ∧ p.sharedFunctions = [] ∧ p.plans = []) ∧
      ∀ x ∈ p.validation.findings, ∀ name : String,
        x.message ≠ s!"Behavior name '{name}' is used by more than one behavior") ∧
    ((∀ f ∈ functions, Checked.defect? f = none) → functions.length ≤ Nat.pow 2 1023 →
      ∃ p, ofFunctions config functions = .ok p) := by
  refine ⟨fun p hp => ⟨blocking_eq_false_iff hp, eq_empty_of_blocking hp, fun x hx name => ?_⟩,
    fun hvalid hlength => ?_⟩
  · exact message_ne_takenMessage hp hx name
  · exact exists_ofFunctions_eq_ok config hvalid (Double.holds_two_pow.mono hlength)

theorem partitionable_doorAndLamp : Partitionable {} doorAndLamp ∧
    ∃ p, ofFunctions {} [{ name := "log" }] = .ok p ∧ p.blocking = true ∧
      p.behaviors = [] ∧ p.sharedFunctions = [] ∧ p.plans = [] := by
  obtain ⟨hpartition, -⟩ := partitionable_iff_of_ofFunctions {} doorAndLamp
  obtain ⟨hblocks, hexists⟩ := partitionable_iff_of_ofFunctions {} [{ name := "log" }]
  obtain ⟨p, hp, hb⟩ := exists_doorAndLamp
  obtain ⟨q, hq⟩ := hexists (by decide) (Double.le_two_pow (by decide))
  have hrefused : (ofFunctions {} [{ name := "log" }]).toOption.map (·.blocking) = some true := by
    decide
  rw [hq] at hrefused
  have hblocking : q.blocking = true := Option.some.inj hrefused
  exact ⟨(hpartition p hp).1.mp hb, q, hq, hblocking, (hblocks q hq).2.1 hblocking⟩

end Partition

end BehaviorPlan
