import BehaviorPlan.Partition.Basic
import BehaviorPlan.Proofs.Partition.Declared
import BehaviorPlan.Proofs.Partition.Reach

/-! # Owners and users of functions

A tagged function belongs to one behavior, and a helper is used by the behaviors from which a chain
of calls leads to it. The tables of a partition hold just this. -/
namespace BehaviorPlan

/-- A tag names the behavior. An empty name counts as none. -/
def NamedByTag (functions : List FunctionDecl) (name : String) : Prop :=
  name ≠ "" ∧ ∃ f ∈ functions, ∃ tag, f.tag = some tag ∧ tag.name = some name

/-- A tagged function belongs to the behavior that its tag names; a tag without a name stands for
the only name in any tag, or else for the behavior that the function's name suggests. -/
inductive BelongsTo (functions : List FunctionDecl) (f : FunctionDecl) : String → Prop where
  | named {tag : BehaviorTag} {name : String} : f.tag = some tag → tag.name = some name →
      BelongsTo functions f name
  | only {tag : BehaviorTag} {name : String} : f.tag = some tag → tag.name = none →
      (∀ other, NamedByTag functions other ↔ other = name) → BelongsTo functions f name
  | suggested {tag : BehaviorTag} : f.tag = some tag → tag.name = none →
      (¬ ∃ name, ∀ other, NamedByTag functions other ↔ other = name) →
      BelongsTo functions f (Name.inferBehavior f.name)

def homeOf (functions : List FunctionDecl) (f : FunctionDecl) : Option String :=
  f.tag.map fun tag =>
    Declared.behaviorName (Declared.explicitNames functions) f.name tag.name

/-- The behaviors in order of their first tagged function. -/
def homes (functions : List FunctionDecl) : List String :=
  (functions.filterMap (homeOf functions)).eraseDups

def ownersOf (functions : List FunctionDecl) : Table String :=
  .ofPairs (Declared.owners functions)

def reachOf (functions : List FunctionDecl) : Reach :=
  ⟨.ofKeys (homes functions) (traceFor functions (ownersOf functions))⟩

section Owners

variable {functions : List FunctionDecl}

theorem mem_explicitNames {name : String} :
    name ∈ Declared.explicitNames functions ↔ NamedByTag functions name := by
  simp only [Declared.explicitNames, List.mem_eraseDups, List.mem_filterMap, NamedByTag, present?,
    Option.filter_eq_some_iff, Option.bind_eq_some_iff, ne_eq, decide_not,
    Bool.not_eq_true']
  constructor
  · rintro ⟨f, hf, hname, hne⟩
    exact ⟨by simpa using hne, f, hf, hname⟩
  · rintro ⟨hne, f, hf, hname⟩
    exact ⟨f, hf, hname, by simpa using hne⟩

theorem explicitNames_eq_singleton_iff {name : String} :
    Declared.explicitNames functions = [name] ↔
      ∀ other, NamedByTag functions other ↔ other = name := by
  have hn : (Declared.explicitNames functions).Nodup := nodup_eraseDups _
  simp only [eq_singleton_iff_of_nodup hn, mem_explicitNames]
  exact ⟨fun ⟨hm, hall⟩ other => ⟨hall other, fun he => he ▸ hm⟩,
    fun h => ⟨(h name).mpr rfl, fun other => (h other).mp⟩⟩

theorem belongsTo_iff {f : FunctionDecl} {name : String} :
    BelongsTo functions f name ↔ homeOf functions f = some name := by
  constructor
  · rintro (⟨htag, hname⟩ | ⟨htag, hname, honly⟩ | ⟨htag, hname, hnone⟩)
    · simp [homeOf, htag, hname, Declared.behaviorName]
    · simp [homeOf, htag, hname, explicitNames_eq_singleton_iff.mpr honly, Declared.behaviorName]
    · have hne : ∀ n, Declared.explicitNames functions ≠ [n] := fun n he =>
        hnone ⟨n, explicitNames_eq_singleton_iff.mp he⟩
      simp [homeOf, htag, hname, Declared.behaviorName]
  · intro h
    obtain ⟨tag, htag, rfl⟩ := Option.map_eq_some_iff.mp h
    cases hname : tag.name with
    | some n => exact .named htag hname
    | none =>
      by_cases honly : ∃ n, Declared.explicitNames functions = [n]
      · obtain ⟨n, hn⟩ := honly
        rw [hn]
        exact .only htag hname (explicitNames_eq_singleton_iff.mp hn)
      · have hsuggested : Declared.behaviorName (Declared.explicitNames functions) f.name none =
            Name.inferBehavior f.name := by
          unfold Declared.behaviorName
          split <;> simp_all
        rw [hsuggested]
        refine .suggested htag hname fun ⟨n, hn⟩ => honly ⟨n, ?_⟩
        exact explicitNames_eq_singleton_iff.mpr hn

theorem owners_eq : Declared.owners functions =
    functions.filterMap fun f => (homeOf functions f).map (f.name, ·) := by
  simp [Declared.owners, homeOf, Option.map_map, Function.comp_def]

theorem mem_owners {name behavior : String} : (name, behavior) ∈ Declared.owners functions ↔
    ∃ f ∈ functions, f.name = name ∧ homeOf functions f = some behavior := by
  simp only [owners_eq, List.mem_filterMap, Option.map_eq_some_iff, Prod.mk.injEq]
  constructor
  · rintro ⟨f, hf, b, hb, hname, rfl⟩
    exact ⟨f, hf, hname, hb⟩
  · rintro ⟨f, hf, hname, hb⟩
    exact ⟨f, hf, behavior, hb, hname, rfl⟩

theorem keys_owners_sublist :
    ((Declared.owners functions).map (·.1)).Sublist (functions.map (·.name)) := by
  rw [owners_eq]
  generalize homeOf functions = home
  induction functions with
  | nil => simp
  | cons f functions ih =>
    rw [List.filterMap_cons]
    cases home f with
    | none => exact ih.cons f.name
    | some b => exact ih.cons_cons f.name

variable (hn : (functions.map (·.name)).Nodup)

include hn

theorem entries_ownersOf : (ownersOf functions).entries = Declared.owners functions := by
  rw [ownersOf, Table.ofPairs_of_nodup (keys_owners_sublist.nodup hn)]

theorem keys_ownersOf_nodup : (ownersOf functions).keys.Nodup := by
  rw [Table.keys, entries_ownersOf hn]
  exact keys_owners_sublist.nodup hn

theorem mem_ownersOf {f : FunctionDecl} (hf : f ∈ functions) {behavior : String} :
    (f.name, behavior) ∈ (ownersOf functions).entries ↔ homeOf functions f = some behavior := by
  rw [entries_ownersOf hn, mem_owners]
  constructor
  · rintro ⟨g, hg, hname, hb⟩
    rwa [List.inj_on_of_nodup_map hn hg hf hname] at hb
  · exact fun hb => ⟨f, hf, rfl, hb⟩

theorem get?_ownersOf {f : FunctionDecl} (hf : f ∈ functions) :
    (ownersOf functions).get? f.name = homeOf functions f := by
  refine Option.ext fun behavior => ?_
  rw [Table.get?_eq_some_iff (keys_ownersOf_nodup hn)]
  exact mem_ownersOf hn hf

theorem values_ownersOf : (ownersOf functions).values = functions.filterMap (homeOf functions) := by
  rw [Table.values, entries_ownersOf hn, owners_eq, List.map_filterMap]
  simp [Option.map_map, Function.comp_def]

theorem ofOwners_ownersOf :
    Reach.ofOwners (ownersOf functions) functions = .ok (reachOf functions) := by
  rw [Reach.ofOwners_eq_ok, values_ownersOf hn]
  · rfl
  · rintro ⟨name, behavior⟩ he
    rw [entries_ownersOf hn] at he
    obtain ⟨f, hf, rfl, _⟩ := mem_owners.mp he
    exact ⟨f, (declaration?_eq_some_iff hn).mpr ⟨hf, rfl⟩⟩

end Owners

/-- A chain of calls through helpers leads from a function of the behavior to `h`. -/
def Reaches (functions : List FunctionDecl) (behavior : String) (h : FunctionDecl) : Prop :=
  ∃ f ∈ functions, BelongsTo functions f behavior ∧
    Relation.TransGen (CallsHelper functions) f h

section Users

variable {functions : List FunctionDecl}

theorem mem_homes {behavior : String} :
    behavior ∈ homes functions ↔ ∃ f ∈ functions, homeOf functions f = some behavior := by
  simp [homes]

theorem Reaches.mem_homes {behavior : String} {h : FunctionDecl}
    (hr : Reaches functions behavior h) : behavior ∈ homes functions := by
  obtain ⟨f, hf, hb, _⟩ := hr
  exact BehaviorPlan.mem_homes.mpr ⟨f, hf, belongsTo_iff.mp hb⟩

theorem Reaches.not_tagged {behavior : String} {h : FunctionDecl}
    (hr : Reaches functions behavior h) : h.isTagged = false := by
  obtain ⟨f, _, _, hfh⟩ := hr
  obtain ⟨g, _, _, htag, _⟩ := Relation.TransGen.tail'_iff.mp hfh
  exact htag

theorem homeOf_eq_none_iff {f : FunctionDecl} : homeOf functions f = none ↔ f.isTagged = false := by
  simp [homeOf, FunctionDecl.isTagged]

theorem isTagged_of_homeOf {f : FunctionDecl} {behavior : String}
    (h : homeOf functions f = some behavior) : f.isTagged = true := by
  by_contra hnot
  rw [Bool.not_eq_true, ← @homeOf_eq_none_iff functions, h] at hnot
  simp at hnot

theorem exists_homeOf {f : FunctionDecl} (h : f.isTagged = true) :
    ∃ behavior, homeOf functions f = some behavior := by
  rw [← Option.ne_none_iff_exists', Ne, homeOf_eq_none_iff, h]
  simp

theorem usedBy_reachOf (name : String) :
    (reachOf functions).usedBy name = (homes functions).filter fun b =>
      name ∈ (traceFor functions (ownersOf functions) b).helpers := by
  simp [Reach.usedBy, reachOf, Table.ofKeys, List.filter_map, Function.comp_def]

theorem usedBy_nodup (name : String) : ((reachOf functions).usedBy name).Nodup := by
  rw [usedBy_reachOf]
  exact (nodup_eraseDups _).filter _

theorem mem_usedBy (hn : (functions.map (·.name)).Nodup) {h : FunctionDecl} (hh : h ∈ functions)
    {behavior : String} :
    behavior ∈ (reachOf functions).usedBy h.name ↔ Reaches functions behavior h := by
  have hhelpers : h.name ∈ (traceFor functions (ownersOf functions) behavior).helpers ↔
      Reaches functions behavior h := by
    rw [mem_helpers_traceFor_iff hn hh]
    exact exists_congr fun f => and_congr_right fun hf =>
      and_congr_left' ((mem_ownersOf hn hf).trans belongsTo_iff.symm)
  rw [usedBy_reachOf, List.mem_filter, decide_eq_true_eq, hhelpers]
  exact ⟨And.right, fun hr => ⟨hr.mem_homes, hr⟩⟩

/-- The behavior alone reaches `h`. -/
def ReachesAlone (functions : List FunctionDecl) (behavior : String) (h : FunctionDecl) : Prop :=
  Reaches functions behavior h ∧ ∀ other, Reaches functions other h → other = behavior

theorem usedBy_eq_singleton_iff (hn : (functions.map (·.name)).Nodup) {h : FunctionDecl}
    (hh : h ∈ functions) {behavior : String} :
    (reachOf functions).usedBy h.name = [behavior] ↔ ReachesAlone functions behavior h := by
  simp only [eq_singleton_iff_of_nodup (usedBy_nodup h.name), mem_usedBy hn hh, ReachesAlone]

theorem two_le_length_usedBy_iff (hn : (functions.map (·.name)).Nodup) {h : FunctionDecl}
    (hh : h ∈ functions) : 2 ≤ ((reachOf functions).usedBy h.name).length ↔
      ∃ a b, Reaches functions a h ∧ Reaches functions b h ∧ a ≠ b := by
  simp only [two_le_length_iff_of_nodup (usedBy_nodup h.name), mem_usedBy hn hh]
  exact ⟨fun ⟨a, ha, b, hb, hab⟩ => ⟨a, b, ha, hb, hab⟩,
    fun ⟨a, b, ha, hb, hab⟩ => ⟨a, ha, b, hb, hab⟩⟩

end Users

end BehaviorPlan
