import BehaviorPlan.Proofs.Partition.Entry

/-! # Where functions are placed

A partition that does not block loses no function and places none twice. Which behavior a function
is in depends on the tags and on the chains of calls only. -/
namespace BehaviorPlan

variable {functions : List FunctionDecl}

/-- The first function of `a` comes before all functions of `b`. -/
def StartsBefore (functions : List FunctionDecl) (a b : String) : Prop :=
  ∃ before f after, functions = before ++ f :: after ∧ BelongsTo functions f a ∧
    ∀ g ∈ before, ¬ BelongsTo functions g b

theorem pairwise_eraseDups_filterMap (home : FunctionDecl → Option String)
    (functions : List FunctionDecl) :
    (functions.filterMap home).eraseDups.Pairwise fun a b => ∃ before f after,
      functions = before ++ f :: after ∧ home f = some a ∧ ∀ g ∈ before, home g ≠ some b := by
  induction functions using List.reverseRecOn with
  | nil => simp
  | append_singleton functions f ih =>
    have hold : (functions.filterMap home).eraseDups.Pairwise fun a b => ∃ before g after,
        functions ++ [f] = before ++ g :: after ∧ home g = some a ∧
          ∀ g ∈ before, home g ≠ some b := by
      refine ih.imp fun {a b} ⟨before, g, after, he, hg, hb⟩ => ?_
      exact ⟨before, g, after ++ [f], by simp [he], hg, hb⟩
    cases hf : home f with
    | none => simpa [hf] using hold
    | some name =>
      rw [List.filterMap_append, List.filterMap_cons_some hf, List.filterMap_nil,
        eraseDups_concat]
      split
      · exact hold
      · rename_i hnew
        refine List.pairwise_append.mpr ⟨hold, List.pairwise_singleton _ _, fun a ha b hb => ?_⟩
        rw [List.mem_eraseDups, List.mem_filterMap] at ha
        obtain ⟨g, hg, ha⟩ := ha
        obtain ⟨before, after, rfl⟩ := List.append_of_mem hg
        refine ⟨before, g, after ++ [f], by simp, ha, fun h hh hhome => ?_⟩
        rw [List.mem_singleton.mp hb] at hhome
        exact hnew (List.mem_filterMap.mpr ⟨h, List.mem_append_left _ hh, hhome⟩)

/-- Behaviors stand in the order of their first functions. -/
theorem pairwise_homes : (homes functions).Pairwise (StartsBefore functions) := by
  refine (pairwise_eraseDups_filterMap (homeOf functions) functions).imp ?_
  rintro a b ⟨before, f, after, he, hf, hb⟩
  exact ⟨before, f, after, he, belongsTo_iff.mpr hf,
    fun g hg hbelongs => hb g hg (belongsTo_iff.mp hbelongs)⟩

namespace Partition

/-- The function is a member of the behavior of the name, once, and nowhere else. -/
def OnlyIn (p : Partition) (f : FunctionDecl) (name : String) : Prop :=
  name ∈ p.names ∧ f ∉ p.sharedFunctions ∧
    ∀ b ∈ p.behaviors, b.memberNames.count f.name = if b.name = name then 1 else 0

def InNoBehavior (p : Partition) (f : FunctionDecl) : Prop :=
  ∀ b ∈ p.behaviors, f.name ∉ b.memberNames

/-- Where the functions of a partition are: tagged ones in their behaviors, helpers in the one
behavior that reaches them or among the shared functions, and unused helpers nowhere. -/
structure Placement (functions : List FunctionDecl) (p : Partition) : Prop where
  names_nodup : p.names.Nodup
  names_order : p.names.Pairwise (StartsBefore functions)
  mem_names : ∀ name, name ∈ p.names ↔ ∃ f ∈ functions, BelongsTo functions f name
  tagged : ∀ f ∈ functions, f.isTagged = true →
    ∃ name, BelongsTo functions f name ∧ p.OnlyIn f name
  reached_alone : ∀ f ∈ functions, ∀ name, ReachesAlone functions name f → p.OnlyIn f name
  reached_by_several : ∀ f ∈ functions,
    (∃ a b, Reaches functions a f ∧ Reaches functions b f ∧ a ≠ b) →
      p.sharedFunctions.count f = 1 ∧ p.InNoBehavior f
  unreached : ∀ f ∈ functions, f.isTagged = false → (∀ name, ¬ Reaches functions name f) →
    f ∉ p.sharedFunctions ∧ p.InNoBehavior f
  members : ∀ b ∈ p.behaviors, ∃ tagged helpers : List FunctionDecl,
    tagged.Sublist functions ∧ helpers.Sublist functions ∧
      (∀ f ∈ tagged, f.isTagged = true) ∧ (∀ f ∈ helpers, f.isTagged = false) ∧
        b.members = (tagged ++ helpers).map Member.ofFunction

section Members

variable (hn : (functions.map (·.name)).Nodup)

include hn

theorem mem_memberNames_assembled {f : FunctionDecl} (hf : f ∈ functions) {name : String} :
    f.name ∈ (assembled functions (ownersOf functions) (reachOf functions) name).memberNames ↔
      BelongsTo functions f name ∨ ReachesAlone functions name f := by
  rw [memberNames_assembled, belongsTo_iff, ← mem_functionsOf hn hf, List.mem_map]
  constructor
  · rintro ⟨g, hg, hname⟩
    rwa [List.inj_on_of_nodup_map hn (functionsOf_subset hn hg) hf hname] at hg
  · exact fun h => ⟨f, h, rfl⟩

theorem count_memberNames_assembled {f : FunctionDecl} (hf : f ∈ functions) {home : String}
    (h : ∀ name, BelongsTo functions f name ∨ ReachesAlone functions name f ↔ name = home) :
    ∀ b ∈ assembledAll functions,
      b.memberNames.count f.name = if b.name = home then 1 else 0 := by
  intro b hb
  obtain ⟨name, _, rfl⟩ := List.mem_map.mp hb
  have hnodup : (assembled functions (ownersOf functions) (reachOf functions)
      name).memberNames.Nodup := by
    rw [memberNames_assembled]
    exact functionsOf_nodup hn name
  rw [hnodup.count]
  exact if_congr ((mem_memberNames_assembled hn hf).trans (h name)) rfl rfl

theorem mem_shared {f : FunctionDecl} (hf : f ∈ functions) :
    f ∈ (reachOf functions).shared functions ↔
      ∃ a b, Reaches functions a f ∧ Reaches functions b f ∧ a ≠ b := by
  rw [Reach.shared, List.mem_filter, decide_eq_true_eq, two_le_length_usedBy_iff hn hf]
  exact and_iff_right hf

theorem inNoBehavior_assembledAll {f : FunctionDecl} (hf : f ∈ functions)
    (hhome : ∀ name, ¬ BelongsTo functions f name)
    (halone : ∀ name, ¬ ReachesAlone functions name f) :
    ∀ b ∈ assembledAll functions, f.name ∉ b.memberNames := by
  intro b hb hm
  obtain ⟨name, _, rfl⟩ := List.mem_map.mp hb
  rcases (mem_memberNames_assembled hn hf).mp hm with h | h
  · exact hhome name h
  · exact halone name h

end Members

theorem not_belongsTo_of_not_tagged {f : FunctionDecl} (h : f.isTagged = false) (name : String) :
    ¬ BelongsTo functions f name := by
  rw [belongsTo_iff, homeOf_eq_none_iff.mpr h]
  simp

theorem members_assembled (hn : (functions.map (·.name)).Nodup) (name : String) :
    ∃ tagged helpers : List FunctionDecl, tagged.Sublist functions ∧ helpers.Sublist functions ∧
      (∀ f ∈ tagged, f.isTagged = true) ∧ (∀ f ∈ helpers, f.isTagged = false) ∧
        (assembled functions (ownersOf functions) (reachOf functions) name).members =
          (tagged ++ helpers).map Member.ofFunction := by
  refine ⟨functions.filter fun f => homeOf functions f = some name,
    functions.filter fun f => (reachOf functions).usedBy f.name = [name],
    List.filter_sublist, List.filter_sublist, fun f hf => ?_, fun f hf => ?_, ?_⟩
  · exact isTagged_of_homeOf (of_decide_eq_true (List.mem_filter.mp hf).2)
  · simp only [List.mem_filter, decide_eq_true_eq] at hf
    exact ((usedBy_eq_singleton_iff hn hf.1).mp hf.2).1.not_tagged
  · rw [← functionsOf_eq hn]
    rfl

section Placed

variable {p : Partition} (hn : (functions.map (·.name)).Nodup)
  (hbehaviors : p.behaviors = assembledAll functions)
  (hshared : p.sharedFunctions = (reachOf functions).shared functions)

include hn hbehaviors hshared

theorem onlyIn_of_belongsTo {f : FunctionDecl} (hf : f ∈ functions) {name : String}
    (hhome : BelongsTo functions f name) : p.OnlyIn f name := by
  have hhome' := belongsTo_iff.mp hhome
  have hnot : ∀ b, ¬ Reaches functions b f := fun b hr =>
    Bool.false_ne_true (hr.not_tagged.symm.trans (isTagged_of_homeOf hhome'))
  refine ⟨?_, ?_, ?_⟩
  · rw [names, hbehaviors, names_assembledAll]
    exact mem_homes.mpr ⟨f, hf, hhome'⟩
  · rw [hshared, mem_shared hn hf]
    exact fun ⟨a, _, ha, _⟩ => hnot a ha
  · rw [hbehaviors]
    refine count_memberNames_assembled hn hf fun n => ?_
    rw [belongsTo_iff, hhome', Option.some.injEq]
    exact ⟨fun hor => (hor.resolve_right fun halone => hnot n halone.1).symm,
      fun he => Or.inl he.symm⟩

theorem onlyIn_of_reachesAlone {f : FunctionDecl} (hf : f ∈ functions) {name : String}
    (halone : ReachesAlone functions name f) : p.OnlyIn f name := by
  refine ⟨?_, ?_, ?_⟩
  · rw [names, hbehaviors, names_assembledAll]
    exact halone.1.mem_homes
  · rw [hshared, mem_shared hn hf]
    rintro ⟨a, b, ha, hb, hne⟩
    exact hne ((halone.2 a ha).trans (halone.2 b hb).symm)
  · rw [hbehaviors]
    refine count_memberNames_assembled hn hf fun n => ?_
    constructor
    · rintro (hbelongs | hother)
      · exact absurd hbelongs (not_belongsTo_of_not_tagged halone.1.not_tagged n)
      · exact halone.2 n hother.1
    · rintro rfl
      exact Or.inr halone

theorem shared_of_reached_by_several {f : FunctionDecl} (hf : f ∈ functions)
    (h : ∃ a b, Reaches functions a f ∧ Reaches functions b f ∧ a ≠ b) :
    p.sharedFunctions.count f = 1 ∧ p.InNoBehavior f := by
  have hmem : f ∈ (reachOf functions).shared functions := (mem_shared hn hf).mpr h
  obtain ⟨a, b, ha, hb, hne⟩ := h
  refine ⟨?_, ?_⟩
  · rw [hshared]
    exact List.count_eq_one_of_mem ((List.Nodup.of_map _ hn).filter _) hmem
  · rw [InNoBehavior, hbehaviors]
    refine inNoBehavior_assembledAll hn hf (not_belongsTo_of_not_tagged ha.not_tagged) ?_
    exact fun name halone => hne ((halone.2 a ha).trans (halone.2 b hb).symm)

theorem unplaced_of_unreached {f : FunctionDecl} (hf : f ∈ functions) (htag : f.isTagged = false)
    (h : ∀ name, ¬ Reaches functions name f) : f ∉ p.sharedFunctions ∧ p.InNoBehavior f := by
  refine ⟨?_, ?_⟩
  · rw [hshared, mem_shared hn hf]
    exact fun ⟨a, _, ha, _⟩ => h a ha
  · rw [InNoBehavior, hbehaviors]
    exact inNoBehavior_assembledAll hn hf (not_belongsTo_of_not_tagged htag)
      fun name halone => h name halone.1

end Placed

/-- Every function of a partition that does not block is placed, and placed once. -/
theorem placement_of_ofFunctions (config : Config) (functions : List FunctionDecl) (p : Partition)
    (h : ofFunctions config functions = .ok p) (hb : p.blocking = false) :
    Placement functions p := by
  obtain ⟨⟨hn, _⟩, hbehaviors, hshared, -, -⟩ := ofFunctions_inv h hb
  have hnames : p.names = homes functions := by rw [names, hbehaviors, names_assembledAll]
  refine
    { names_nodup := hnames ▸ nodup_eraseDups _
      names_order := hnames ▸ pairwise_homes
      mem_names := fun name => ?_
      tagged := fun f hf htag => ?_
      reached_alone := fun f hf name => onlyIn_of_reachesAlone hn hbehaviors hshared hf
      reached_by_several := fun f hf => shared_of_reached_by_several hn hbehaviors hshared hf
      unreached := fun f hf => unplaced_of_unreached hn hbehaviors hshared hf
      members := fun b hm => ?_ }
  · rw [hnames, mem_homes]
    simp only [belongsTo_iff]
  · obtain ⟨name, hhome⟩ := @exists_homeOf functions f htag
    have hbelongs := belongsTo_iff.mpr hhome
    exact ⟨name, hbelongs, onlyIn_of_belongsTo hn hbehaviors hshared hf hbelongs⟩
  · rw [hbehaviors] at hm
    obtain ⟨name, _, rfl⟩ := List.mem_map.mp hm
    exact members_assembled hn name

theorem placement_doorAndLamp :
    ∃ p, ofFunctions {} doorAndLamp = .ok p ∧ p.blocking = false ∧ Placement doorAndLamp p := by
  obtain ⟨p, hp, hb⟩ := exists_doorAndLamp
  exact ⟨p, hp, hb, placement_of_ofFunctions {} doorAndLamp p hp hb⟩

end Partition

end BehaviorPlan
