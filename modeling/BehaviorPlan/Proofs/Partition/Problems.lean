import Mathlib.Data.List.Perm.Basic
import BehaviorPlan.Proofs.Partition.Assembly

/-! # All problems of the declarations

Declarations are checked to the end. Whatever is wrong is told once: every repeated function, every
bad name of a behavior where it occurs first, and every bad entry of every tag. What a function adds
depends on those before it only through its own name and that of its behavior. -/
namespace BehaviorPlan.Declared

/-- What a tag lists besides the name of its behavior. -/
inductive Entry where
  | event (name : String)
  | dependency (name : String)
  | eventTarget (name : String)
  deriving DecidableEq, Repr

namespace Entry

def all (tag : BehaviorTag) : List Entry :=
  tag.events.map event ++ tag.dependencies.map dependency ++ tag.eventTargets.map eventTarget

/-- What may stand in a tag of the behavior. -/
def Legal (behavior : String) : Entry → Prop
  | event name => Name.isEvent name = true
  | dependency name =>
    (Name.isIdentifier name = true ∧ Name.startsUpper name = true) ∧ name ≠ behavior
  | eventTarget name => Name.isIdentifier name = true

instance (behavior : String) : DecidablePred (Legal behavior)
  | event _ => inferInstanceAs (Decidable (_ = _))
  | dependency _ => inferInstanceAs (Decidable (_ ∧ _))
  | eventTarget _ => inferInstanceAs (Decidable (_ = _))

def problem? (behavior function : String) : Entry → Option TagProblem
  | event name => eventProblem? function name
  | dependency name => dependencyProblem? behavior function name
  | eventTarget name => eventTargetProblem? function name

theorem problem?_eq_none_iff {behavior function : String} {e : Entry} :
    e.problem? behavior function = none ↔ e.Legal behavior := by
  cases e with
  | event name => exact eventProblem?_eq_none_iff
  | dependency name => exact dependencyProblem?_eq_none_iff
  | eventTarget name => exact eventTargetProblem?_eq_none_iff

theorem tagProblems_eq (behavior function : String) (tag : BehaviorTag) :
    tagProblems behavior function tag = (all tag).filterMap (problem? behavior function) := by
  simp only [tagProblems, all, List.filterMap_append, List.filterMap_map]
  rfl

end Entry

section Matching

variable {α β γ : Type}

theorem forall₂_filterMap {bad : α → Prop} [DecidablePred bad] {g : α → Option β}
    (h : ∀ a, g a = none ↔ ¬ bad a) (l : List α) :
    List.Forall₂ (fun a b => g a = some b) (l.filter bad) (l.filterMap g) := by
  induction l with
  | nil => exact .nil
  | cons a l ih =>
    cases ha : g a with
    | none => simpa [ha, (h a).mp ha] using ih
    | some b =>
      have hbad : bad a := by
        by_contra hnot
        simp [(h a).mpr hnot] at ha
      simpa [ha, hbad] using ih

theorem forall₂_flatMap {R : α → β → Prop} {f : γ → List α} {g : γ → List β}
    (h : ∀ c, List.Forall₂ R (f c) (g c)) (l : List γ) :
    List.Forall₂ R (l.flatMap f) (l.flatMap g) := by
  induction l with
  | nil => exact .nil
  | cons c l ih => exact List.rel_append (h c) ih

end Matching

section Scan

variable {α β : Type} {told : List FunctionDecl → FunctionDecl → List α}

/-- What every function adds, given those declared before it. -/
def scanned (told : List FunctionDecl → FunctionDecl → List α) (functions : List FunctionDecl) :
    List α :=
  functions.zipIdx.flatMap fun o => told (functions.take o.2) o.1

theorem scanned_concat (functions : List FunctionDecl) (f : FunctionDecl) :
    scanned told (functions ++ [f]) = scanned told functions ++ told functions f := by
  have hbefore : ∀ o ∈ functions.zipIdx,
      told ((functions ++ [f]).take o.2) o.1 = told (functions.take o.2) o.1 := by
    intro o ho
    have hlt : o.2 < functions.length := by
      simpa using (List.mem_zipIdx ho).2.1
    rw [List.take_append_of_le_length (Nat.le_of_lt hlt)]
  rw [scanned, List.zipIdx_append, List.flatMap_append, List.flatMap_congr hbefore]
  simp [scanned]

theorem scanned_const (f : FunctionDecl → List α) (functions : List FunctionDecl) :
    scanned (fun _ => f) functions = functions.flatMap f := by
  induction functions using List.reverseRecOn with
  | nil => rfl
  | append_singleton functions g ih =>
    rw [scanned_concat, ih, List.flatMap_append, List.flatMap_singleton]

theorem forall₂_scanned {R : α → β → Prop} {other : List FunctionDecl → FunctionDecl → List β}
    (h : ∀ earlier f, List.Forall₂ R (told earlier f) (other earlier f))
    (functions : List FunctionDecl) :
    List.Forall₂ R (scanned told functions) (scanned other functions) := by
  induction functions using List.reverseRecOn with
  | nil => exact .nil
  | append_singleton functions f ih =>
    rw [scanned_concat, scanned_concat]
    exact List.rel_append ih (h functions f)

theorem mem_scanned_of_split {functions before after : List FunctionDecl} {f : FunctionDecl}
    (h : functions = before ++ f :: after) {x : α} (hx : x ∈ told before f) :
    x ∈ scanned told functions := by
  subst h
  induction after using List.reverseRecOn with
  | nil =>
    rw [scanned_concat]
    exact List.mem_append_right _ hx
  | append_singleton after g ih =>
    rw [← List.cons_append, ← List.append_assoc, scanned_concat]
    exact List.mem_append_left _ ih

end Scan

section Told

variable {config : Config} {explicit known : List String}

def homeAmong (explicit : List String) (f : FunctionDecl) : Option String :=
  f.tag.map fun tag => behaviorName explicit f.name tag.name

theorem homeOf_eq (functions : List FunctionDecl) :
    homeOf functions = homeAmong (explicitNames functions) := rfl

/-- A function is told as repeated if its name was declared before. -/
def repeatTold (earlier : List FunctionDecl) (f : FunctionDecl) : List Finding :=
  if f.name ∈ earlier.map (·.name) then [repeatFinding f.name] else []

/-- A bad name of a behavior is told unless it is known. -/
def nameTold (config : Config) (explicit known : List String) (f : FunctionDecl) : List Finding :=
  ((homeAmong explicit f).bind fun behavior =>
    if behavior ∈ known then none
    else (nameProblem? config behavior).map (nameFinding behavior f.name)).toList

def entriesTold (explicit : List String) (f : FunctionDecl) : List Finding :=
  match f.tag with
  | none => []
  | some tag =>
    let behavior := behaviorName explicit f.name tag.name
    (tagProblems behavior f.name tag).map (tagFinding behavior f.name)

theorem nameTold_congr {other : List String} (f : FunctionDecl)
    (h : ∀ behavior, nameProblem? config behavior ≠ none → (behavior ∈ known ↔ behavior ∈ other)) :
    nameTold config explicit known f = nameTold config explicit other f := by
  unfold nameTold
  congr 2
  funext behavior
  by_cases hgood : nameProblem? config behavior = none
  · simp [hgood]
  · simp only [h behavior hgood]

theorem repeatsFrom_concat (seen : List String) (functions : List FunctionDecl)
    (f : FunctionDecl) : repeatsFrom seen (functions ++ [f]) = repeatsFrom seen functions ++
      if f.name ∈ seen ++ functions.map (·.name) then [repeatFinding f.name] else [] := by
  induction functions generalizing seen with
  | nil => simp [repeatsFrom]
  | cons g functions ih =>
    have hseen : f.name ∈ g.name :: seen ++ functions.map (·.name) ↔
        f.name ∈ seen ++ (g :: functions).map (·.name) := by
      simp only [List.cons_append, List.map_cons, List.mem_cons, List.mem_append]
      exact or_left_comm
    rw [List.cons_append, repeatsFrom, ih, repeatsFrom, List.append_assoc]
    simp only [hseen]

theorem repeatsFrom_eq_scanned (functions : List FunctionDecl) :
    repeatsFrom [] functions = scanned repeatTold functions := by
  induction functions using List.reverseRecOn with
  | nil => rfl
  | append_singleton functions f ih =>
    rw [repeatsFrom_concat, scanned_concat, ih, repeatTold, List.nil_append]

theorem mem_reported {name behavior : String} {reported : List String}
    (hbad : nameProblem? config name ≠ none) :
    (name ∈ if (if behavior ∈ reported then none else nameProblem? config behavior).isSome
        then behavior :: reported else reported) ↔ name ∈ reported ∨ name = behavior := by
  by_cases hreported : behavior ∈ reported
  · rw [if_pos hreported, Option.isSome_none, if_neg Bool.false_ne_true]
    exact ⟨Or.inl, fun h => h.elim id fun he => he ▸ hreported⟩
  · rw [if_neg hreported]
    cases hproblem : nameProblem? config behavior with
    | none =>
      have hne : name ≠ behavior := fun he => hbad (he ▸ hproblem)
      simp [hne]
    | some problem => simp [or_comm]

/-- The last tagged function is told what is bad about it, whatever was told before. The names that
were not reported have no problem, so it makes no difference whether they count as known. -/
theorem tagFindingsFrom_concat (reported : List String) (functions : List FunctionDecl)
    (f : FunctionDecl) : tagFindingsFrom config explicit reported (functions ++ [f]) =
      tagFindingsFrom config explicit reported functions ++
        (nameTold config explicit (reported ++ functions.filterMap (homeAmong explicit)) f ++
          entriesTold explicit f) := by
  induction functions generalizing reported with
  | nil =>
    cases htag : f.tag with
    | none => simp [tagFindingsFrom, htag, nameTold, homeAmong, entriesTold]
    | some tag =>
      simp only [List.nil_append, tagFindingsFrom, htag, nameTold, homeAmong, entriesTold]
      split <;> simp [*]
  | cons g functions ih =>
    rw [List.cons_append]
    cases htag : g.tag with
    | none => simp [tagFindingsFrom, htag, ih, homeAmong]
    | some tag =>
      have hhome : homeAmong explicit g = some (behaviorName explicit g.name tag.name) := by
        rw [homeAmong, htag, Option.map_some]
      simp only [tagFindingsFrom, htag, ih, List.append_assoc]
      congr 3
      refine congrArg (· ++ _) (nameTold_congr f fun behavior hbad => ?_)
      rw [List.filterMap_cons_some hhome, List.mem_append, mem_reported hbad, List.mem_append,
        List.mem_cons]
      tauto

theorem tagFindingsFrom_eq_scanned (config : Config) (explicit : List String)
    (functions : List FunctionDecl) : tagFindingsFrom config explicit [] functions =
      scanned (fun earlier f =>
        nameTold config explicit (earlier.filterMap (homeAmong explicit)) f ++
          entriesTold explicit f) functions := by
  induction functions using List.reverseRecOn with
  | nil => rfl
  | append_singleton functions f ih =>
    rw [tagFindingsFrom_concat, scanned_concat, ih, List.nil_append]

def toldOf (config : Config) (functions earlier : List FunctionDecl) (f : FunctionDecl) :
    List Finding :=
  repeatTold earlier f ++
    (nameTold config (explicitNames functions) (earlier.filterMap (homeOf functions)) f ++
      entriesTold (explicitNames functions) f)

theorem findings_perm_scanned (config : Config) (functions : List FunctionDecl) :
    (findings config functions).Perm (scanned (toldOf config functions) functions) := by
  rw [findings, repeatsFrom_eq_scanned, tagFindingsFrom_eq_scanned]
  exact List.flatMap_append_perm ..

end Told

section Kinds

variable {config : Config} {explicit : List String} {functions : List FunctionDecl}

/-- An error of the category at the behavior and the function. -/
structure Blames (category : Category) (behavior : Option String) (function : String)
    (x : Finding) : Prop where
  category : x.category = category
  severity : x.severity = .error
  behavior : x.behavior = behavior
  function : x.function = some function

def repeated (functions : List FunctionDecl) : List FunctionDecl :=
  scanned (fun earlier f => if f.name ∈ earlier.map (·.name) then [f] else []) functions

def BadName (config : Config) (name : String) : Prop :=
  ¬ (Name.isClassName name = true ∧ name ∉ config.reservedNames)

instance (config : Config) : DecidablePred (BadName config) :=
  fun _ => inferInstanceAs (Decidable (¬ _))

def badNames (config : Config) (functions : List FunctionDecl) : List String :=
  (homes functions).filter (BadName config)

/-- An error about the name of a behavior, at its first function. -/
def BlamesFirst (home : FunctionDecl → Option String) (functions : List FunctionDecl)
    (name : String) (x : Finding) : Prop :=
  ∃ f, functions.find? (home · = some name) = some f ∧
    Blames .invalidUnitName (present? (some name)) f.name x

def badEntriesOf (explicit : List String) (f : FunctionDecl) : List Entry :=
  match f.tag with
  | none => []
  | some tag =>
    (Entry.all tag).filter fun e => ¬ e.Legal (behaviorName explicit f.name tag.name)

def badEntries (functions : List FunctionDecl) : List (FunctionDecl × Entry) :=
  functions.flatMap fun f => (badEntriesOf (explicitNames functions) f).map (f, ·)

theorem forall₂_repeatTold (functions : List FunctionDecl) :
    List.Forall₂ (fun f => Blames .invalidAttribute none f.name) (repeated functions)
      (scanned repeatTold functions) := by
  refine forall₂_scanned (fun earlier f => ?_) functions
  rw [repeatTold]
  split
  · exact .cons ⟨rfl, rfl, rfl, rfl⟩ .nil
  · exact .nil

theorem forall₂_entriesTold (explicit : List String) (f : FunctionDecl) :
    List.Forall₂ (fun e => Blames .invalidAttribute (present? (homeAmong explicit e.1)) e.1.name)
      ((badEntriesOf explicit f).map (f, ·)) (entriesTold explicit f) := by
  unfold badEntriesOf entriesTold
  cases htag : f.tag with
  | none => exact .nil
  | some tag =>
    dsimp only
    rw [Entry.tagProblems_eq, List.forall₂_map_left_iff, List.forall₂_map_right_iff]
    refine (forall₂_filterMap (fun e => ?_) _).imp fun e problem _ => ?_
    · rw [Entry.problem?_eq_none_iff, not_not]
    · rw [homeAmong, htag]
      exact ⟨rfl, rfl, rfl, rfl⟩

theorem nameTold_of_home {known : List String} {f : FunctionDecl} {name : String}
    (hhome : homeAmong explicit f = some name) :
    nameTold config explicit known f =
      (if name ∈ known then none
        else (nameProblem? config name).map (nameFinding name f.name)).toList := by
  rw [nameTold, hhome, Option.bind_some]

theorem BlamesFirst.concat {home : FunctionDecl → Option String} {name : String} {x : Finding}
    (h : BlamesFirst home functions name x) (f : FunctionDecl) :
    BlamesFirst home (functions ++ [f]) name x := by
  obtain ⟨first, hfirst, hblames⟩ := h
  exact ⟨first, by rw [List.find?_append, hfirst, Option.some_or], hblames⟩

theorem blamesFirst_of_new {home : FunctionDecl → Option String} {name : String} {f : FunctionDecl}
    (hhome : home f = some name) (hnew : name ∉ functions.filterMap home)
    (problem : String × String) :
    BlamesFirst home (functions ++ [f]) name (nameFinding name f.name problem) := by
  have hnone : functions.find? (home · = some name) = none := by
    apply List.find?_eq_none.mpr
    intro g hg hsame
    exact hnew (List.mem_filterMap.mpr ⟨g, hg, of_decide_eq_true hsame⟩)
  refine ⟨f, ?_, ⟨rfl, rfl, rfl, rfl⟩⟩
  rw [List.find?_append, hnone, Option.none_or]
  simp [hhome]

/-- Each bad name is told once. The induction is on the functions from the last one back: those
before have told all names that they share with it. -/
theorem forall₂_nameTold (config : Config) (explicit : List String)
    (functions : List FunctionDecl) :
    List.Forall₂ (BlamesFirst (homeAmong explicit) functions)
      ((functions.filterMap (homeAmong explicit)).eraseDups.filter (BadName config))
      (scanned (fun earlier =>
        nameTold config explicit (earlier.filterMap (homeAmong explicit))) functions) := by
  induction functions using List.reverseRecOn with
  | nil => exact .nil
  | append_singleton functions f ih =>
    have hbefore := ih.imp fun _ _ h => h.concat f
    rw [scanned_concat, List.filterMap_append]
    cases hhome : homeAmong explicit f with
    | none => simpa [nameTold, hhome] using hbefore
    | some name =>
      rw [List.filterMap_cons_some hhome, List.filterMap_nil, eraseDups_concat,
        nameTold_of_home hhome]
      by_cases hknown : name ∈ functions.filterMap (homeAmong explicit)
      · rw [if_pos hknown, if_pos hknown, Option.toList_none, List.append_nil]
        exact hbefore
      · rw [if_neg hknown, if_neg hknown, List.filter_append]
        apply List.rel_append hbefore
        cases hproblem : nameProblem? config name with
        | none =>
          have hgood : ¬ BadName config name := not_not.mpr (nameProblem?_eq_none_iff.mp hproblem)
          simp [hgood]
        | some problem =>
          have hbad : BadName config name := fun hgood => by
            simp [nameProblem?_eq_none_iff.mpr hgood] at hproblem
          simpa [hbad] using blamesFirst_of_new hhome hknown problem

end Kinds

/-- The findings tell all that is wrong with the declarations, each problem once. -/
structure Exhausts (config : Config) (functions : List FunctionDecl) (found : List Finding) :
    Prop where
  kinds : ∃ repeats names entries, found.Perm (repeats ++ (names ++ entries)) ∧
    List.Forall₂ (fun f => Blames .invalidAttribute none f.name) (repeated functions) repeats ∧
    List.Forall₂ (BlamesFirst (homeOf functions) functions) (badNames config functions) names ∧
    List.Forall₂ (fun e => Blames .invalidAttribute (present? (homeOf functions e.1)) e.1.name)
      (badEntries functions) entries
  length : found.length =
    (repeated functions).length + (badNames config functions).length +
      (badEntries functions).length
  perFunction : found.Perm (scanned (toldOf config functions) functions)
  /-- Of what a function would be told alone, only the bad name of its behavior may be missing. -/
  unsuppressed : ∀ before f after, functions = before ++ f :: after →
    ∀ x ∈ toldOf config functions [] f, x ∈ found ∨
      x.category = .invalidUnitName ∧ ∃ g ∈ before, homeOf functions g = homeOf functions f

theorem findings_perm_kinds (config : Config) (functions : List FunctionDecl) :
    (findings config functions).Perm (scanned repeatTold functions ++
      (scanned (fun earlier => nameTold config (explicitNames functions)
          (earlier.filterMap (homeOf functions))) functions ++
        functions.flatMap (entriesTold (explicitNames functions)))) := by
  rw [findings, repeatsFrom_eq_scanned, tagFindingsFrom_eq_scanned, ← scanned_const]
  exact (List.flatMap_append_perm ..).symm.append_left _

theorem mem_or_shared {config : Config} {functions before after : List FunctionDecl}
    {f : FunctionDecl} (h : functions = before ++ f :: after) {x : Finding}
    (hx : x ∈ toldOf config functions [] f) :
    x ∈ scanned (toldOf config functions) functions ∨
      x.category = .invalidUnitName ∧ ∃ g ∈ before, homeOf functions g = homeOf functions f := by
  simp only [toldOf, repeatTold, List.map_nil, List.not_mem_nil, if_false, List.nil_append,
    List.filterMap_nil, List.mem_append] at hx
  rcases hx with hx | hx
  · cases hhome : homeOf functions f with
    | none =>
      rw [nameTold, ← homeOf_eq, hhome] at hx
      simp at hx
    | some name =>
      rw [nameTold_of_home hhome, if_neg List.not_mem_nil] at hx
      by_cases hknown : name ∈ before.filterMap (homeOf functions)
      · obtain ⟨problem, _, rfl⟩ := Option.map_eq_some_iff.mp (Option.mem_toList.mp hx)
        exact Or.inr ⟨rfl, List.mem_filterMap.mp hknown⟩
      · left
        apply mem_scanned_of_split h
        rw [toldOf, nameTold_of_home hhome, if_neg hknown]
        exact List.mem_append_right _ (List.mem_append_left _ hx)
  · left
    apply mem_scanned_of_split h
    exact List.mem_append_right _ (List.mem_append_right _ hx)

theorem exhausts_findings (config : Config) (functions : List FunctionDecl) :
    Exhausts config functions (findings config functions) := by
  have hkinds := findings_perm_kinds config functions
  have hrepeats := forall₂_repeatTold functions
  have hnames : List.Forall₂ (BlamesFirst (homeOf functions) functions)
      (badNames config functions) (scanned (fun earlier => nameTold config
        (explicitNames functions) (earlier.filterMap (homeOf functions))) functions) :=
    forall₂_nameTold config (explicitNames functions) functions
  have hentries := forall₂_flatMap (forall₂_entriesTold (explicitNames functions)) functions
  refine
    { kinds := ⟨_, _, _, hkinds, hrepeats, hnames, hentries⟩
      length := ?_
      perFunction := findings_perm_scanned config functions
      unsuppressed := fun before f after h x hx => ?_ }
  · rw [hkinds.length_eq, List.length_append, List.length_append, ← hrepeats.length_eq,
      ← hnames.length_eq, ← hentries.length_eq, Nat.add_assoc]
    rfl
  · rw [(findings_perm_scanned config functions).mem_iff]
    exact mem_or_shared h hx

/-- As soon as one thing is wrong with the declarations, the partition is blocked and empty, and it
tells all that is wrong. -/
theorem exhausts_of_ofFunctions (config : Config) (functions : List FunctionDecl)
    (h : repeated functions ≠ [] ∨ badNames config functions ≠ [] ∨ badEntries functions ≠ []) :
    ∃ p, Partition.ofFunctions config functions = .ok p ∧ p.blocking = true ∧ p.behaviors = [] ∧
      Exhausts config functions p.validation.findings := by
  have hexhausts := exhausts_findings config functions
  have hrefused : ¬ Accepted config functions := by
    intro haccepted
    have hlength := hexhausts.length
    rw [findings_eq_nil_iff.mpr haccepted, List.length_nil] at hlength
    simp only [ne_eq, ← List.length_eq_zero_iff] at h
    omega
  exact ⟨_, Partition.ofFunctions_of_findings hrefused,
    Partition.blocking_findings_of_not_accepted hrefused, rfl, hexhausts⟩

/-- Two functions of one name that both belong to a behavior with a keyword for a name. -/
def brokenTwins : List FunctionDecl :=
  [{ name := "open", tag := some { name := some "class", events := ["Start", "1st"] } },
    { name := "open"
      tag := some { name := some "class", dependencies := ["", "Lamp"], eventTargets := ["a b"] } }]

theorem exhausts_brokenTwins :
    badNames {} brokenTwins ≠ [] ∧
      ∃ p, Partition.ofFunctions {} brokenTwins = .ok p ∧ p.blocking = true ∧ p.behaviors = [] ∧
        Exhausts {} brokenTwins p.validation.findings ∧ p.validation.findings.length = 5 := by
  have hbad : badNames {} brokenTwins ≠ [] := by decide +kernel
  obtain ⟨p, hp, hblocking, hbehaviors, hexhausts⟩ :=
    exhausts_of_ofFunctions {} brokenTwins (Or.inr (Or.inl hbad))
  have hcount : (repeated brokenTwins).length + (badNames {} brokenTwins).length +
      (badEntries brokenTwins).length = 5 := by decide +kernel
  exact ⟨hbad, p, hp, hblocking, hbehaviors, hexhausts, hexhausts.length.trans hcount⟩

end BehaviorPlan.Declared
