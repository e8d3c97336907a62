import Mathlib.Data.List.Perm.Subperm
import BehaviorPlan.Proofs.Number.Range
import BehaviorPlan.Proofs.Partition.Assembly

/-! # Plans for shared functions

Shared functions are reached by two behaviors or more, and no more behaviors reach a function nor
more functions call it than functions are declared. So every shared function gets its plan, as
long as the number of functions is in the range of doubles. -/
namespace BehaviorPlan

namespace SharingPlan

theorem exists_times_eq_ok {bound n : Nat} (hbound : Double.Holds bound) (h : n ≤ bound)
    (d : Double) : ∃ x, times n d = .ok x := by
  obtain ⟨units, hu⟩ := hbound n h
  have hdouble := Quantity.toDouble_of_some (Quantity.toDouble?_whole hu)
  exact ⟨_, Outcome.bind_eq_ok_iff.mpr ⟨_, hdouble, rfl⟩⟩

theorem exists_benefitOf_eq_ok {bound behaviorCount callCount : Nat} (hbound : Double.Holds bound)
    (hpos : 0 < behaviorCount) (hb : behaviorCount ≤ bound) (hc : callCount ≤ bound)
    (kind : FunctionKind) : ∃ x, benefitOf behaviorCount callCount kind = .ok x := by
  have hless : behaviorCount - 1 ≤ bound := Nat.le_trans (Nat.sub_le _ _) hb
  obtain ⟨copies, hcopies⟩ := exists_times_eq_ok hbound hless (.ofInt 10)
  obtain ⟨calls, hcalls⟩ := exists_times_eq_ok hbound hc (.ofInt 2)
  rw [Int.natCast_sub hpos, Int.natCast_one] at hcopies
  refine ⟨(copies.add calls).mul kind.weight, ?_⟩
  rw [benefitOf, hcopies, hcalls]
  rfl

theorem reductionOf_nonneg {behaviorCount : Int} (kind : FunctionKind) :
    0 ≤ reductionOf behaviorCount kind := by
  unfold reductionOf
  split
  · exact Int.le_refl 0
  · cases kind <;> simp only [FunctionKind.size] <;> omega

/-- What a plan is, once it is known which behaviors reach the function. -/
theorem forFunction_eq_ok_iff {usedBy : String → Option (List String)} {callCount : String → Int}
    {name : String} {plan : SharingPlan} : forFunction usedBy callCount name = .ok plan ↔
      ∃ behaviors benefit, usedBy name = some behaviors ∧
        benefitOf behaviors.length (callCount name) (.ofName name) = .ok benefit ∧
        Checked.defect? plan = none ∧
        plan =
          { name
            usedBy := behaviors
            callCount := callCount name
            kind := .ofName name
            benefit := .real benefit
            strategy := strategyFor (.real benefit) behaviors.length (.ofName name)
            sizeReduction := reductionOf behaviors.length (.ofName name) } := by
  rw [forFunction]
  cases hused : usedBy name with
  | none => simp [bind, Except.bind]
  | some behaviors =>
    constructor
    · intro h
      obtain ⟨_, hbehaviors, h⟩ := Outcome.bind_eq_ok_iff.mp h
      obtain rfl := Except.ok.inj hbehaviors
      obtain ⟨benefit, hbenefit, h⟩ := Outcome.bind_eq_ok_iff.mp h
      obtain ⟨hsound, rfl⟩ := checked_eq_ok_iff.mp h
      exact ⟨behaviors, benefit, rfl, hbenefit, hsound, rfl⟩
    · rintro ⟨_, benefit, hbehaviors, hbenefit, hsound, rfl⟩
      obtain rfl := Option.some.inj hbehaviors
      exact Outcome.bind_eq_ok_iff.mpr ⟨behaviors, rfl, Outcome.bind_eq_ok_iff.mpr
        ⟨benefit, hbenefit, checked_of_sound hsound⟩⟩

theorem exists_forFunction_eq_ok {bound : Nat} (hbound : Double.Holds bound)
    {usedBy : String → Option (List String)} {callCount : String → Nat} {name : String}
    {behaviors : List String} (hname : name ≠ "") (hused : usedBy name = some behaviors)
    (htwo : 2 ≤ behaviors.length) (hb : behaviors.length ≤ bound) (hc : callCount name ≤ bound) :
    ∃ plan, forFunction usedBy (fun n => callCount n) name = .ok plan := by
  obtain ⟨benefit, hbenefit⟩ :=
    exists_benefitOf_eq_ok hbound (by omega) hb hc (FunctionKind.ofName name)
  have hreduction : 0 ≤ reductionOf behaviors.length (FunctionKind.ofName name) :=
    reductionOf_nonneg _
  refine ⟨_, forFunction_eq_ok_iff.mpr ⟨behaviors, benefit, hused, hbenefit, ?_, rfl⟩⟩
  simp only [Checked.defect?, Option.or_eq_none_iff, blank?_eq_none_iff, defectIf_eq_none_iff,
    decide_eq_false_iff_not]
  exact ⟨⟨hname, by omega⟩, by omega, by omega⟩

end SharingPlan

/-- What the walks from the owned functions find. -/
def reachFrom (functions : List FunctionDecl) (owners : Table String) : Reach :=
  ⟨.ofKeys owners.values.eraseDups (traceFor functions owners)⟩

section Counts

variable {functions : List FunctionDecl} {owners : Table String}

theorem usedBy_reachFrom (name : String) : (reachFrom functions owners).usedBy name =
    owners.values.eraseDups.filter fun b => name ∈ (traceFor functions owners b).helpers := by
  simp [Reach.usedBy, reachFrom, Table.ofKeys, List.filter_map, Function.comp_def]

theorem nodup_usedBy_reachFrom (name : String) :
    ((reachFrom functions owners).usedBy name).Nodup := by
  rw [usedBy_reachFrom]
  exact (nodup_eraseDups _).filter _

/-- Each behavior owns a function of its own, and each function is declared. -/
theorem length_usedBy_le (hkeys : owners.keys.Nodup)
    (hdeclared : owners.keys ⊆ functions.map (·.name)) (name : String) :
    ((reachFrom functions owners).usedBy name).length ≤ functions.length := by
  have hvalues : owners.values.eraseDups.length ≤ owners.values.length :=
    ((nodup_eraseDups _).subperm fun b hb => List.mem_eraseDups.mp hb).length_le
  have hsame : owners.values.length = owners.keys.length := by simp [Table.values, Table.keys]
  have hnames : owners.keys.length ≤ functions.length := by
    simpa using (hkeys.subperm hdeclared).length_le
  rw [usedBy_reachFrom]
  exact (List.length_filter_le _ _).trans (hvalues.trans (hsame ▸ hnames))

theorem mem_names_of_followed {behavior : String} {call : String × String}
    (h : Followed functions (rootsOf functions owners behavior) call) :
    call.1 ∈ functions.map (·.name) := by
  have hcalls : ∀ {name f}, declaration? functions name = some f → ∀ c ∈ Trace.callsOf f,
      c.1 ∈ functions.map (·.name) := fun hf c hc =>
    (mem_callsOf.mp hc).1 ▸ List.mem_map_of_mem (List.mem_of_find?_eq_some hf)
  cases h with
  | start hc =>
    obtain ⟨_, _, _, hf, hc⟩ := mem_rootsOf_iff.mp hc
    exact hcalls hf _ hc
  | next _ hf _ hc => exact hcalls hf _ hc

theorem callCount_le (name : String) :
    (reachFrom functions owners).callCount name ≤ functions.length := by
  have hsub : (((reachFrom functions owners).traces.values.flatMap (·.sites)).filter
      (·.2 = name)).map (·.1) ⊆ functions.map (·.name) := by
    intro caller hcaller
    obtain ⟨site, hsite, rfl⟩ := List.mem_map.mp hcaller
    obtain ⟨trace, htrace, hsite⟩ := List.mem_flatMap.mp (List.mem_filter.mp hsite).1
    obtain ⟨b, _, rfl⟩ : ∃ b ∈ owners.values.eraseDups, traceFor functions owners b = trace := by
      simpa [reachFrom, Table.ofKeys, Table.values] using htrace
    exact mem_names_of_followed (mem_sites_traceFor.mp hsite).2
  have hlength : (functions.map (·.name)).length = functions.length := List.length_map _
  rw [Reach.callCount, ← hlength]
  exact ((nodup_eraseDups _).subperm fun c hc => hsub (List.mem_eraseDups.mp hc)).length_le

theorem exists_plans_reachFrom (hkeys : owners.keys.Nodup)
    (hdeclared : owners.keys ⊆ functions.map (·.name))
    (hvalid : ∀ f ∈ functions, Checked.defect? f = none) (hbound : Double.Holds functions.length) :
    ∃ plans, (reachFrom functions owners).plans functions = .ok plans := by
  generalize hreach : reachFrom functions owners = r
  have hplan : ∀ name ∈ (r.shared functions).map (·.name), ∃ plan,
      SharingPlan.forFunction r.usedBy? (fun n => r.callCount n) name = .ok plan := by
    intro name hname
    obtain ⟨f, hf, rfl⟩ := List.mem_map.mp hname
    obtain ⟨hf, htwo⟩ := List.mem_filter.mp hf
    have htwo : 2 ≤ (r.usedBy f.name).length := of_decide_eq_true htwo
    have hused : r.usedBy? f.name = some (r.usedBy f.name) := by
      rw [Reach.usedBy?, if_neg]
      intro hnil
      simp [hnil] at htwo
    exact SharingPlan.exists_forFunction_eq_ok hbound (blank?_eq_none_iff.mp (hvalid f hf)) hused
      htwo (hreach ▸ length_usedBy_le hkeys hdeclared _) (hreach ▸ callCount_le _)
  obtain ⟨plans, hplans⟩ := Outcome.exists_mapM_eq_ok hplan
  exact ⟨SharingPlan.sortByBenefit plans, Outcome.bind_eq_ok_iff.mpr ⟨plans, hplans, rfl⟩⟩

/-- In a partition every shared function gets its plan. -/
theorem exists_plans_eq_ok (hn : (functions.map (·.name)).Nodup)
    (hvalid : ∀ f ∈ functions, Checked.defect? f = none) (hbound : Double.Holds functions.length) :
    ∃ plans, (reachOf functions).plans functions = .ok plans := by
  have hreach : reachFrom functions (ownersOf functions) = reachOf functions := by
    rw [reachFrom, values_ownersOf hn]
    rfl
  have hdeclared : (ownersOf functions).keys ⊆ functions.map (·.name) := by
    rw [Table.keys, entries_ownersOf hn]
    exact keys_owners_sublist.subset
  exact hreach ▸ exists_plans_reachFrom (keys_ownersOf_nodup hn) hdeclared hvalid hbound

end Counts

end BehaviorPlan
