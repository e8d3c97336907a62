import BehaviorPlan.Proofs.Partition.Placement

/-! # Sharing found again

What behaviors share can be found again from the behaviors alone. The owners of the tagged
functions are then read off the members, behavior by behavior. They stand in another order than
the declarations, but every function has the same owner, every behavior the same functions in the
same order, and the behaviors themselves come in the same order. Nothing else matters to the walks
through the calls, so they find the same shared functions and the same plans. -/
namespace BehaviorPlan

section Walk

variable {functions : List FunctionDecl} {owners owners' : Table String}

theorem Trace.follow_congr (h : ∀ name, owners.get? name = owners'.get? name) (behavior : String)
    (unseen : List String) (pending : List (String × String)) (t : Trace) :
    follow functions owners behavior unseen pending t =
      follow functions owners' behavior unseen pending t := by
  fun_induction follow functions owners behavior unseen pending t with
  | case1 unseen t => rw [follow]
  | case2 unseen t caller callee pending hnone ih => rw [follow, hnone]; exact ih
  | case3 unseen t caller callee pending f hf htag hnone ih =>
    rw [h] at hnone
    rw [follow, hf]
    simpa [htag, hnone] using ih
  | case4 unseen t caller callee pending f hf htag owner howner ih =>
    rw [h] at howner
    rw [follow, hf]
    simpa [htag, howner] using ih
  | case5 unseen t caller callee pending f hf htag site hnew ih =>
    rw [follow, hf]
    simpa [htag, hnew] using ih
  | case6 unseen t caller callee pending f hf htag site hold ih =>
    rw [follow, hf]
    simpa [htag, hold] using ih

/-- Tables of owners that answer alike, with the same functions per behavior. -/
structure SameOwners (owners owners' : Table String) : Prop where
  get? : ∀ name, owners.get? name = owners'.get? name
  group : ∀ behavior,
    owners.entries.filter (·.2 = behavior) = owners'.entries.filter (·.2 = behavior)
  order : owners.values.eraseDups = owners'.values.eraseDups

theorem SameOwners.traceFor (h : SameOwners owners owners') (behavior : String) :
    traceFor functions owners behavior = BehaviorPlan.traceFor functions owners' behavior := by
  rw [BehaviorPlan.traceFor, BehaviorPlan.traceFor, rootsOf, rootsOf, h.group,
    Trace.follow_congr h.get?]

/-- The walks from the one table find what those from the other find. -/
theorem SameOwners.ofOwners (h : SameOwners owners owners')
    (hdeclared : ∀ e ∈ owners.entries, ∃ f, declaration? functions e.1 = some f)
    (hdeclared' : ∀ e ∈ owners'.entries, ∃ f, declaration? functions e.1 = some f) :
    Reach.ofOwners owners functions = Reach.ofOwners owners' functions := by
  rw [Reach.ofOwners_eq_ok hdeclared, Reach.ofOwners_eq_ok hdeclared', h.order,
    funext h.traceFor]

end Walk

namespace Partition

section Owners

variable {functions : List FunctionDecl}

def taggedOf (functions : List FunctionDecl) (behavior : String) : List FunctionDecl :=
  functions.filter fun f => homeOf functions f = some behavior

theorem mem_taggedOf {f : FunctionDecl} {behavior : String} :
    f ∈ taggedOf functions behavior ↔ f ∈ functions ∧ homeOf functions f = some behavior := by
  simp [taggedOf]

theorem taggedOf_ne_nil {behavior : String} (h : behavior ∈ homes functions) :
    taggedOf functions behavior ≠ [] := by
  obtain ⟨f, hf, hhome⟩ := mem_homes.mp h
  exact List.ne_nil_of_mem (mem_taggedOf.mpr ⟨hf, hhome⟩)

/-- The tagged functions with their behaviors, behavior by behavior. -/
def groupedOwners (functions : List FunctionDecl) : List (String × String) :=
  (homes functions).flatMap fun b => (taggedOf functions b).map fun f => (f.name, b)

theorem mem_groupedOwners {name behavior : String} : (name, behavior) ∈ groupedOwners functions ↔
    ∃ f ∈ functions, f.name = name ∧ homeOf functions f = some behavior := by
  simp only [groupedOwners, List.mem_flatMap, List.mem_map, mem_taggedOf, Prod.mk.injEq]
  constructor
  · rintro ⟨b, _, f, ⟨hf, hhome⟩, hname, rfl⟩
    exact ⟨f, hf, hname, hhome⟩
  · rintro ⟨f, hf, hname, hhome⟩
    exact ⟨behavior, mem_homes.mpr ⟨f, hf, hhome⟩, f, ⟨hf, hhome⟩, hname, rfl⟩

theorem filter_owners (behavior : String) :
    (Declared.owners functions).filter (·.2 = behavior) =
      (taggedOf functions behavior).map fun f => (f.name, behavior) := by
  rw [owners_eq, taggedOf]
  generalize homeOf functions = home
  induction functions with
  | nil => rfl
  | cons f functions ih =>
    cases hhome : home f with
    | none => simpa [hhome] using ih
    | some b =>
      by_cases hb : b = behavior
      · simpa [hhome, hb] using ih
      · simpa [hhome, hb] using ih

theorem filter_groupedOwners (behavior : String) :
    (groupedOwners functions).filter (·.2 = behavior) =
      (Declared.owners functions).filter (·.2 = behavior) := by
  have hgroup : ∀ b, ((taggedOf functions b).map fun f => (f.name, b)).filter (·.2 = behavior) =
      if b = behavior then (taggedOf functions b).map fun f => (f.name, b) else [] := by
    intro b
    split
    · rename_i hb
      simp [List.filter_map, Function.comp_def, hb]
    · rename_i hb
      simp [List.filter_map, Function.comp_def, hb]
  rw [filter_owners, groupedOwners, List.filter_flatMap]
  simp only [hgroup]
  refine flatMap_ite_eq (nodup_eraseDups _) fun hnot => ?_
  rw [List.map_eq_nil_iff, List.eq_nil_iff_forall_not_mem]
  exact fun f hf => hnot (mem_homes.mpr ⟨f, mem_taggedOf.mp hf⟩)

theorem eraseDups_values_groupedOwners :
    ((groupedOwners functions).map (·.2)).eraseDups = homes functions := by
  have hvalues : (groupedOwners functions).map (·.2) =
      (homes functions).flatMap fun b => (taggedOf functions b).map fun _ => b := by
    simp [groupedOwners, List.map_flatMap, Function.comp_def]
  rw [hvalues]
  have hn : ((homes functions).map id).Nodup := by
    rw [List.map_id]
    exact nodup_eraseDups _
  exact (eraseDups_flatMap_map_const hn fun b => taggedOf_ne_nil).trans (List.map_id _)

variable (hn : (functions.map (·.name)).Nodup)

include hn

theorem keys_groupedOwners_nodup : ((groupedOwners functions).map (·.1)).Nodup := by
  have hkeys : (groupedOwners functions).map (·.1) =
      (homes functions).flatMap fun b => (taggedOf functions b).map (·.name) := by
    simp [groupedOwners, List.map_flatMap, Function.comp_def]
  rw [hkeys, List.nodup_flatMap]
  refine ⟨fun b _ => hn.sublist (List.filter_sublist.map _), ?_⟩
  refine (nodup_eraseDups _).imp fun {a b} hab name ha hb => ?_
  obtain ⟨f, hf, hname⟩ := List.mem_map.mp ha
  obtain ⟨g, hg, rfl⟩ := List.mem_map.mp hb
  obtain ⟨hf, hfhome⟩ := mem_taggedOf.mp hf
  obtain ⟨hg, hghome⟩ := mem_taggedOf.mp hg
  rw [List.inj_on_of_nodup_map hn hf hg hname, hghome] at hfhome
  exact hab (Option.some.inj hfhome).symm

/-- Of the members of a behavior those that carry a tag are the ones that it owns. -/
theorem filter_memberNames_assembled (behavior : String) :
    (assembled functions (ownersOf functions) (reachOf functions) behavior).memberNames.filter
      (· ∈ (functions.filter (·.isTagged)).map (·.name)) =
        (taggedOf functions behavior).map (·.name) := by
  have hkeep : ((taggedOf functions behavior).map (·.name)).filter
      (· ∈ (functions.filter (·.isTagged)).map (·.name)) =
        (taggedOf functions behavior).map (·.name) := by
    refine List.filter_eq_self.mpr fun name hname => decide_eq_true ?_
    obtain ⟨f, hf, rfl⟩ := List.mem_map.mp hname
    obtain ⟨hf, hhome⟩ := mem_taggedOf.mp hf
    exact List.mem_map_of_mem (List.mem_filter.mpr ⟨hf, isTagged_of_homeOf hhome⟩)
  have hdrop : ((functions.filter fun f => (reachOf functions).usedBy f.name = [behavior]).map
      (·.name)).filter (· ∈ (functions.filter (·.isTagged)).map (·.name)) = [] := by
    refine List.filter_eq_nil_iff.mpr fun name hname => ?_
    obtain ⟨f, hf, rfl⟩ := List.mem_map.mp hname
    obtain ⟨hf, hused⟩ := List.mem_filter.mp hf
    rw [decide_eq_true_eq]
    intro htagged
    obtain ⟨g, hg, hname⟩ := List.mem_map.mp htagged
    obtain ⟨hg, htag⟩ := List.mem_filter.mp hg
    rw [List.inj_on_of_nodup_map hn hg hf hname] at htag
    have hreach := ((usedBy_eq_singleton_iff hn hf).mp (of_decide_eq_true hused)).1
    exact Bool.false_ne_true (hreach.not_tagged.symm.trans htag)
  rw [memberNames_assembled, functionsOf_eq hn, List.map_append, List.filter_append, hdrop,
    List.append_nil]
  exact hkeep

theorem ownersIn_assembledAll : ownersIn (assembledAll functions) functions =
    ⟨groupedOwners functions⟩ := by
  have hpairs : ((assembledAll functions).flatMap fun b =>
      (b.memberNames.filter (· ∈ (functions.filter (·.isTagged)).map (·.name))).map
        fun name => (name, b.name)) = groupedOwners functions := by
    rw [assembledAll, List.flatMap_map, groupedOwners]
    refine List.flatMap_congr fun b _ => ?_
    rw [filter_memberNames_assembled hn, List.map_map]
    rfl
  rw [ownersIn, hpairs, Table.ofPairs_of_nodup (keys_groupedOwners_nodup hn)]

theorem sameOwners_ownersIn :
    SameOwners (ownersIn (assembledAll functions) functions) (ownersOf functions) := by
  rw [ownersIn_assembledAll hn]
  refine ⟨fun name => Option.ext fun behavior => ?_, fun behavior => ?_, ?_⟩
  · have hkeys : (Table.mk (groupedOwners functions)).keys.Nodup := keys_groupedOwners_nodup hn
    rw [Table.get?_eq_some_iff hkeys, Table.get?_eq_some_iff (keys_ownersOf_nodup hn),
      entries_ownersOf hn, mem_groupedOwners, mem_owners]
  · rw [entries_ownersOf hn, filter_groupedOwners]
  · rw [values_ownersOf hn]
    exact eraseDups_values_groupedOwners

/-- From the behaviors of a partition the walks start as they did from its declarations. -/
theorem ofOwners_ownersIn : Reach.ofOwners (ownersIn (assembledAll functions) functions) functions =
    .ok (reachOf functions) := by
  have hdeclared : ∀ {e : String × String},
      (∃ f ∈ functions, f.name = e.1 ∧ homeOf functions f = some e.2) →
        ∃ f, declaration? functions e.1 = some f := fun ⟨f, hf, hname, _⟩ =>
    ⟨f, (declaration?_eq_some_iff hn).mpr ⟨hf, hname⟩⟩
  rw [(sameOwners_ownersIn hn).ofOwners, ofOwners_ownersOf hn]
  · rw [ownersIn_assembledAll hn]
    exact fun e he => hdeclared (mem_groupedOwners.mp he)
  · rw [entries_ownersOf hn]
    exact fun e he => hdeclared (mem_owners.mp he)

end Owners

section OfFunctions

variable {config : Config} {functions : List FunctionDecl} {p : Partition}

theorem ofOwners_of_no_behaviors :
    Reach.ofOwners (ownersIn [] functions) functions = .ok ⟨.empty⟩ := rfl

theorem shared_of_no_traces : Reach.shared ⟨.empty⟩ functions = [] := by
  simp [Reach.shared, Reach.usedBy, Table.empty]

theorem plans_of_no_traces : Reach.plans ⟨.empty⟩ functions = .ok [] := by
  simp [Reach.plans, shared_of_no_traces, SharingPlan.plansFor, SharingPlan.sortByBenefit, bind,
    Except.bind, pure, Except.pure]

/-- The shared functions of a partition, and the plans for them, are those that are found again from
its behaviors. That holds of partitions that block too. Valid functions always have a partition. -/
theorem resharing_of_ofFunctions (config : Config) (functions : List FunctionDecl) :
    (∀ p, ofFunctions config functions = .ok p →
      BehaviorPlan.sharedFunctions p.behaviors functions = .ok p.sharedFunctions ∧
        sharingPlans p.behaviors functions = .ok p.plans) ∧
    ((∀ f ∈ functions, Checked.defect? f = none) → functions.length ≤ Nat.pow 2 1023 →
      ∃ p, ofFunctions config functions = .ok p) := by
  refine ⟨fun p hp => ?_, fun hvalid hlength =>
    exists_ofFunctions_eq_ok config hvalid (Double.holds_two_pow.mono hlength)⟩
  cases hb : p.blocking with
  | true =>
    obtain ⟨hbehaviors, hshared, hplans⟩ := eq_empty_of_blocking hp hb
    rw [hbehaviors, hshared, hplans, BehaviorPlan.sharedFunctions, sharingPlans,
      ofOwners_of_no_behaviors]
    exact ⟨congrArg Except.ok shared_of_no_traces, plans_of_no_traces⟩
  | false =>
    obtain ⟨haccepted, hbehaviors, hshared, hplans, -⟩ := ofFunctions_inv hp hb
    rw [hbehaviors, hshared, BehaviorPlan.sharedFunctions, sharingPlans,
      ofOwners_ownersIn haccepted.nodup]
    exact ⟨rfl, hplans⟩

theorem log_mem_shared_doorAndLamp :
    { name := "log" } ∈ (reachOf doorAndLamp).shared doorAndLamp := by
  have hcalls : ∀ f ∈ doorAndLamp, "log" ∈ f.calls →
      Relation.TransGen (CallsHelper doorAndLamp) f { name := "log" } := fun f _ hf =>
    .single ⟨by decide, rfl, hf⟩
  rw [mem_shared accepted_doorAndLamp.nodup (by decide)]
  refine ⟨"Door", "Lamp", ?_, ?_, by decide⟩
  · exact ⟨doorAndLamp[0], by decide, .named rfl rfl, hcalls _ (by decide) (by decide)⟩
  · exact ⟨doorAndLamp[2], by decide, .named rfl rfl, hcalls _ (by decide) (by decide)⟩

theorem resharing_doorAndLamp :
    (∃ p, ofFunctions {} doorAndLamp = .ok p ∧ { name := "log" } ∈ p.sharedFunctions ∧
      BehaviorPlan.sharedFunctions p.behaviors doorAndLamp = .ok p.sharedFunctions ∧
      sharingPlans p.behaviors doorAndLamp = .ok p.plans) ∧
    ∃ p, ofFunctions {} [{ name := "log" }] = .ok p ∧
      BehaviorPlan.sharedFunctions p.behaviors [{ name := "log" }] = .ok p.sharedFunctions ∧
      sharingPlans p.behaviors [{ name := "log" }] = .ok p.plans := by
  obtain ⟨hfound, -⟩ := resharing_of_ofFunctions {} doorAndLamp
  obtain ⟨hfound', hexists⟩ := resharing_of_ofFunctions {} [{ name := "log" }]
  obtain ⟨p, hp, hb⟩ := exists_doorAndLamp
  obtain ⟨q, hq⟩ := hexists (by decide) (Double.le_two_pow (by decide))
  have hshared := (ofFunctions_inv hp hb).2.2.1
  exact ⟨⟨p, hp, hshared ▸ log_mem_shared_doorAndLamp, hfound p hp⟩, q, hq, hfound' q hq⟩

end OfFunctions

end Partition

end BehaviorPlan
