import BehaviorPlan.Partition.Declared
import BehaviorPlan.Proofs.Outcome
import BehaviorPlan.Proofs.Table

/-! # Declarations without findings

Every finding on a declaration is an error, so a partition goes on exactly if all names are
distinct, every tagged function belongs to a behavior with a legal name, and its tag is legal. -/
namespace BehaviorPlan.Declared

variable {config : Config} {functions : List FunctionDecl}

theorem repeatsFrom_eq_nil_iff (seen : List String) (functions : List FunctionDecl) :
    repeatsFrom seen functions = [] ↔
      (functions.map (·.name)).Nodup ∧ ∀ n ∈ functions.map (·.name), n ∉ seen := by
  induction functions generalizing seen with
  | nil => simp [repeatsFrom]
  | cons f functions ih =>
    rw [List.map_cons, nodup_fresh_cons_iff, repeatsFrom, List.append_eq_nil_iff, ih]
    exact and_congr_left' (by simp)

/-- What is wrong with the name of a behavior and with a tag of it: nothing. -/
def Legal (config : Config) (behavior function : String) (tag : BehaviorTag) : Prop :=
  nameProblem? config behavior = none ∧ tagProblems behavior function tag = []

theorem tagFindingsFrom_eq_nil_iff (explicit : List String) :
    tagFindingsFrom config explicit [] functions = [] ↔
      ∀ f ∈ functions, ∀ tag, f.tag = some tag →
        Legal config (behaviorName explicit f.name tag.name) f.name tag := by
  induction functions with
  | nil => simp [tagFindingsFrom]
  | cons f functions ih =>
    rw [List.forall_mem_cons, ← ih, tagFindingsFrom]
    cases htag : f.tag with
    | none => simp
    | some tag =>
      -- Nothing is reported before the first finding, so no name is skipped.
      cases hp : nameProblem? config (behaviorName explicit f.name tag.name) with
      | none => simp [Legal, hp]
      | some p => simp [Legal, hp]

/-- What a finding on declarations tells. -/
inductive Tells (config : Config) : Finding → Prop where
  | repeated (function : String) : Tells config (repeatFinding function)
  | name {behavior function : String} {problem : String × String} :
      nameProblem? config behavior = some problem →
      Tells config (nameFinding behavior function problem)
  | tag {behavior function : String} {tag : BehaviorTag} {problem : TagProblem} :
      problem ∈ tagProblems behavior function tag →
      Tells config (tagFinding behavior function problem)

theorem tells_of_mem_repeatsFrom {seen : List String} {x : Finding}
    (h : x ∈ repeatsFrom seen functions) : Tells config x := by
  induction functions generalizing seen with
  | nil => simp [repeatsFrom] at h
  | cons f functions ih =>
    rcases List.mem_append.mp h with h | h
    · split at h
      · rw [List.mem_singleton.mp h]
        exact .repeated f.name
      · simp at h
    · exact ih h

theorem tells_of_mem_tagFindingsFrom {explicit reported : List String} {x : Finding}
    (h : x ∈ tagFindingsFrom config explicit reported functions) : Tells config x := by
  induction functions generalizing reported with
  | nil => simp [tagFindingsFrom] at h
  | cons f functions ih =>
    unfold tagFindingsFrom at h
    split at h
    · exact ih h
    · simp only [List.mem_append, Option.mem_toList, Option.map_eq_some_iff, List.mem_map] at h
      rcases h with (⟨problem, hproblem, rfl⟩ | ⟨problem, hproblem, rfl⟩) | h
      · split_ifs at hproblem
        exact .name hproblem
      · exact .tag hproblem
      · exact ih h

theorem tells_of_mem_findings {x : Finding} (h : x ∈ findings config functions) :
    Tells config x := by
  rcases List.mem_append.mp h with h | h
  · exact tells_of_mem_repeatsFrom h
  · exact tells_of_mem_tagFindingsFrom h

theorem isError_of_mem_findings {x : Finding} (h : x ∈ findings config functions) :
    x.isError = true := by
  cases tells_of_mem_findings h with
  | repeated => rfl
  | name => rfl
  | tag => rfl

theorem blocking_findings_iff :
    (Validation.mk (findings config functions)).blocking = false ↔
      findings config functions = [] := by
  rw [Validation.blocking, List.any_eq_false, List.eq_nil_iff_forall_not_mem]
  exact forall_congr' fun x =>
    ⟨fun h hx => h hx (isError_of_mem_findings hx), fun h hx => absurd hx h⟩

section Messages

theorem ne_empty_of_nameProblem? {name : String} {p : String × String}
    (h : nameProblem? config name = some p) : p.1 ≠ "" := by
  unfold nameProblem? at h
  split_ifs at h
  all_goals
    obtain rfl := Option.some.inj h
    repeat refine append_ne_empty ?_
    decide

theorem ne_empty_of_mem_tagProblems {behavior function : String} {tag : BehaviorTag}
    {p : TagProblem} (h : p ∈ tagProblems behavior function tag) : p.1 ≠ "" := by
  simp only [tagProblems, List.mem_append, List.mem_filterMap] at h
  rcases h with (⟨name, _, h⟩ | ⟨name, _, h⟩) | ⟨name, _, h⟩
  all_goals
    simp only [eventProblem?, dependencyProblem?, eventTargetProblem?] at h
    split_ifs at h
    all_goals
      obtain rfl := Option.some.inj h
      repeat refine append_ne_empty ?_
      decide

theorem sound_of_mem_findings {x : Finding} (h : x ∈ findings config functions) :
    Checked.defect? x = none := by
  rw [Finding.sound_iff]
  · cases tells_of_mem_findings h with
    | repeated => exact append_ne_empty (append_ne_empty (by decide))
    | name hproblem => exact ne_empty_of_nameProblem? hproblem
    | tag hproblem => exact ne_empty_of_mem_tagProblems hproblem
  · cases tells_of_mem_findings h with
    | repeated => rfl
    | name => rfl
    | tag => rfl

end Messages

structure Accepted (config : Config) (functions : List FunctionDecl) : Prop where
  nodup : (functions.map (·.name)).Nodup
  legal : ∀ f ∈ functions, ∀ tag, f.tag = some tag →
    Legal config (behaviorName (explicitNames functions) f.name tag.name) f.name tag

theorem findings_eq_nil_iff : findings config functions = [] ↔ Accepted config functions := by
  rw [findings, List.append_eq_nil_iff, repeatsFrom_eq_nil_iff, tagFindingsFrom_eq_nil_iff]
  exact ⟨fun ⟨⟨hn, _⟩, hl⟩ => ⟨hn, hl⟩, fun ⟨hn, hl⟩ => ⟨⟨hn, by simp⟩, hl⟩⟩

/-- A behavior can have the name of a generated class that no other generated class has. -/
theorem nameProblem?_eq_none_iff {name : String} : nameProblem? config name = none ↔
    Name.isClassName name = true ∧ name ∉ config.reservedNames := by
  unfold nameProblem?
  split
  · rename_i hempty
    simp [hempty, Name.isClassName, Name.isIdentifier_empty]
  · split
    · simp_all [Name.isClassName]
    · split
      · simp_all
      · split <;> simp_all

/-- What a tag on a function of the behavior may declare. -/
structure Admissible (behavior : String) (tag : BehaviorTag) : Prop where
  events : ∀ e ∈ tag.events, Name.isEvent e = true
  dependencies : ∀ d ∈ tag.dependencies,
    (Name.isIdentifier d = true ∧ Name.startsUpper d = true) ∧ d ≠ behavior
  eventTargets : ∀ t ∈ tag.eventTargets, Name.isIdentifier t = true

theorem eventProblem?_eq_none_iff {function event : String} :
    eventProblem? function event = none ↔ Name.isEvent event = true := by
  unfold eventProblem?
  split <;> simp_all

theorem dependencyProblem?_eq_none_iff {behavior function dependency : String} :
    dependencyProblem? behavior function dependency = none ↔
      (Name.isIdentifier dependency = true ∧ Name.startsUpper dependency = true) ∧
        dependency ≠ behavior := by
  have hpascal : Name.isPascal dependency = true ↔
      Name.isIdentifier dependency = true ∧ Name.startsUpper dependency = true := by
    simp [Name.isPascal]
  rw [← hpascal]
  unfold dependencyProblem?
  split
  · rename_i hempty
    simp [hempty, Name.isPascal, Name.isIdentifier_empty]
  · split
    · simp_all
    · split <;> simp_all

theorem eventTargetProblem?_eq_none_iff {function target : String} :
    eventTargetProblem? function target = none ↔ Name.isIdentifier target = true := by
  unfold eventTargetProblem?
  split
  · rename_i hempty
    simp [hempty, Name.isIdentifier_empty]
  · split <;> simp_all

theorem tagProblems_eq_nil_iff {behavior function : String} {tag : BehaviorTag} :
    tagProblems behavior function tag = [] ↔ Admissible behavior tag := by
  simp only [tagProblems, List.append_eq_nil_iff, List.filterMap_eq_nil_iff,
    eventProblem?_eq_none_iff, dependencyProblem?_eq_none_iff, eventTargetProblem?_eq_none_iff]
  exact ⟨fun ⟨⟨he, hd⟩, ht⟩ => ⟨he, hd, ht⟩, fun h => ⟨⟨h.events, h.dependencies⟩, h.eventTargets⟩⟩

end BehaviorPlan.Declared
