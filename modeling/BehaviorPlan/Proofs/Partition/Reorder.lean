import BehaviorPlan.Proofs.Partition.Acceptance

/-! # The order of declarations

Whatever a partition puts together is found from the declared functions as a set. So functions that
are declared in another order give the same behaviors, the same shared functions and the same plans,
and only the order of what is listed in them can change. -/
namespace BehaviorPlan

section Relations

variable {functions functions' : List FunctionDecl} (h : functions.Perm functions')
  {behavior name : String}

include h

theorem namedByTag_congr : NamedByTag functions name ↔ NamedByTag functions' name := by
  simp only [NamedByTag, h.mem_iff]

theorem BelongsTo.of_perm {f : FunctionDecl} (hf : BelongsTo functions f name) :
    BelongsTo functions' f name := by
  cases hf with
  | named htag hname => exact .named htag hname
  | only htag hname honly =>
    exact .only htag hname fun other => (namedByTag_congr h).symm.trans (honly other)
  | suggested htag hname hnone =>
    refine .suggested htag hname fun ⟨single, hsingle⟩ => hnone ⟨single, fun other => ?_⟩
    exact (namedByTag_congr h).trans (hsingle other)

theorem belongsTo_congr {f : FunctionDecl} :
    BelongsTo functions f name ↔ BelongsTo functions' f name :=
  ⟨BelongsTo.of_perm h, BelongsTo.of_perm h.symm⟩

/-- The only way in which names depend on each other is through the set of all tags. -/
theorem homeOf_congr (f : FunctionDecl) : homeOf functions f = homeOf functions' f := by
  refine Option.ext fun home => ?_
  rw [← belongsTo_iff, ← belongsTo_iff]
  exact belongsTo_congr h

theorem homes_perm : (homes functions).Perm (homes functions') := by
  have hmem : ∀ home, home ∈ homes functions ↔ home ∈ homes functions' := by
    intro home
    simp only [mem_homes, h.mem_iff, homeOf_congr h]
  exact (List.perm_ext_iff_of_nodup (nodup_eraseDups _) (nodup_eraseDups _)).mpr hmem

theorem callsHelper_congr : CallsHelper functions = CallsHelper functions' := by
  funext f g
  simp only [CallsHelper, h.mem_iff]

theorem runs_congr {g : FunctionDecl} : Runs functions behavior g ↔ Runs functions' behavior g := by
  simp only [Runs, h.mem_iff, belongsTo_congr h, callsHelper_congr h]

theorem reaches_congr {f : FunctionDecl} :
    Reaches functions behavior f ↔ Reaches functions' behavior f := by
  simp only [Reaches, h.mem_iff, belongsTo_congr h, callsHelper_congr h]

theorem reachesAlone_congr {f : FunctionDecl} :
    ReachesAlone functions behavior f ↔ ReachesAlone functions' behavior f := by
  simp only [ReachesAlone, reaches_congr h]

theorem tagOf_congr {tag : BehaviorTag} :
    TagOf functions behavior tag ↔ TagOf functions' behavior tag := by
  simp only [TagOf, h.mem_iff, belongsTo_congr h]

theorem declaresCall_congr {kind : CallKind} :
    DeclaresCall functions behavior name kind ↔ DeclaresCall functions' behavior name kind := by
  simp only [DeclaresCall, tagOf_congr h]

theorem callsInto_congr : CallsInto functions behavior name ↔ CallsInto functions' behavior name := by
  simp only [CallsInto, runs_congr h, h.mem_iff, belongsTo_congr h]

theorem callerOf_congr {helper : String} :
    CallerOf functions helper name ↔ CallerOf functions' helper name := by
  simp only [CallerOf, runs_congr h, callsHelper_congr h]

theorem HasEvent.of_perm {event : String} (he : HasEvent functions behavior event) :
    HasEvent functions' behavior event := by
  cases he with
  | declared hf hhome htag hevent hunity =>
    exact .declared (h.mem_iff.mp hf) (BelongsTo.of_perm h hhome) htag hevent hunity
  | tagged hf hhome hevent => exact .tagged (h.mem_iff.mp hf) (BelongsTo.of_perm h hhome) hevent
  | helper hf halone hevent =>
    exact .helper (h.mem_iff.mp hf) ((reachesAlone_congr h).mp halone) hevent

theorem nodup_names_of_perm (hn : (functions.map (·.name)).Nodup) :
    (functions'.map (·.name)).Nodup :=
  (h.map _).nodup_iff.mp hn

theorem Partitionable.of_perm {config : Config} (hp : Partitionable config functions) :
    Partitionable config functions' where
  names_nodup := nodup_names_of_perm h hp.names_nodup
  behavior_names f hf name hname :=
    hp.behavior_names f (h.mem_iff.mpr hf) name ((belongsTo_congr h).mpr hname)
  tags f hf name hname :=
    hp.tags f (h.mem_iff.mpr hf) name ((belongsTo_congr h).mpr hname)
  some_entry := by
    obtain ⟨name, event, hevent⟩ := hp.some_entry
    exact ⟨name, event, HasEvent.of_perm h hevent⟩
  every_entry hrequire f hf name hname := by
    obtain ⟨event, hevent⟩ :=
      hp.every_entry hrequire f (h.mem_iff.mpr hf) name ((belongsTo_congr h).mpr hname)
    exact ⟨event, HasEvent.of_perm h hevent⟩

end Relations

section Users

variable {functions functions' : List FunctionDecl} (h : functions.Perm functions')
  (hn : (functions.map (·.name)).Nodup)

include h hn

theorem usedBy_perm {f : FunctionDecl} (hf : f ∈ functions) :
    ((reachOf functions).usedBy f.name).Perm ((reachOf functions').usedBy f.name) := by
  have hn' := nodup_names_of_perm h hn
  refine (List.perm_ext_iff_of_nodup (usedBy_nodup _) (usedBy_nodup _)).mpr fun behavior => ?_
  rw [mem_usedBy hn hf, mem_usedBy hn' (h.mem_iff.mp hf)]
  exact reaches_congr h

theorem exists_usedBy?_perm {f : FunctionDecl} (hf : f ∈ functions) {bs : List String}
    (hbs : (reachOf functions).usedBy? f.name = some bs) :
    ∃ bs', (reachOf functions').usedBy? f.name = some bs' ∧ bs.Perm bs' := by
  have hperm := usedBy_perm h hn hf
  unfold Reach.usedBy? at hbs ⊢
  split at hbs
  · simp at hbs
  · rename_i hne
    obtain rfl := Option.some.inj hbs
    have hne' : (reachOf functions').usedBy f.name ≠ [] := by
      intro hnil
      rw [hnil] at hperm
      exact hne hperm.eq_nil
    exact ⟨_, if_neg hne', hperm⟩

theorem callCount_congr (helper : String) :
    (reachOf functions).callCount helper = (reachOf functions').callCount helper := by
  have hn' := nodup_names_of_perm h hn
  obtain ⟨callers, hnodup, hmem, hcount⟩ := exists_callers hn helper
  obtain ⟨callers', hnodup', hmem', hcount'⟩ := exists_callers hn' helper
  have hperm : callers.Perm callers' := by
    refine (List.perm_ext_iff_of_nodup hnodup hnodup').mpr fun caller => ?_
    rw [hmem, hmem']
    exact callerOf_congr h
  rw [hcount, hcount', hperm.length_eq]

theorem shared_perm :
    ((reachOf functions).shared functions).Perm ((reachOf functions').shared functions') := by
  have hsame : functions.filter (fun f => decide (2 ≤ ((reachOf functions).usedBy f.name).length)) =
      functions.filter fun f => decide (2 ≤ ((reachOf functions').usedBy f.name).length) := by
    refine List.filter_congr fun f hf => ?_
    rw [(usedBy_perm h hn hf).length_eq]
  rw [Reach.shared, hsame]
  exact h.filter _

end Users

/-- Behaviors that differ in the order of what they list only, and in the functions that inferred
calls are ascribed to. -/
structure Behavior.Agrees (b b' : Behavior) : Prop where
  name : b.name = b'.name
  members : b.members.Perm b'.members
  calls : (b.calls.map Call.shape).Perm (b'.calls.map Call.shape)
  events : b.events.Perm b'.events
  autoSync : b.autoSync = b'.autoSync

/-- Plans that differ in the order of the behaviors only. -/
structure SharingPlan.Agrees (plan plan' : SharingPlan) : Prop where
  usedBy : plan.usedBy.Perm plan'.usedBy
  others : { plan with usedBy := plan'.usedBy } = plan'

namespace Partition

section Behaviors

variable {functions functions' : List FunctionDecl} (h : functions.Perm functions')
  (hn : (functions.map (·.name)).Nodup)

include h hn

theorem functionsOf_perm (name : String) :
    (functionsOf functions (ownersOf functions) (reachOf functions) name).Perm
      (functionsOf functions' (ownersOf functions') (reachOf functions') name) := by
  have hn' := nodup_names_of_perm h hn
  refine (List.perm_ext_iff_of_nodup (.of_map _ (functionsOf_nodup hn name))
    (.of_map _ (functionsOf_nodup hn' name))).mpr fun f => ?_
  rw [mem_functionsOf_iff hn, mem_functionsOf_iff hn', h.mem_iff, belongsTo_congr h,
    reachesAlone_congr h]

theorem assembled_agrees (name : String) :
    (assembled functions (ownersOf functions) (reachOf functions) name).Agrees
      (assembled functions' (ownersOf functions') (reachOf functions') name) := by
  have hn' := nodup_names_of_perm h hn
  exact
    { name := rfl
      members := (functionsOf_perm h hn name).map _
      calls := by
        refine (List.perm_ext_iff_of_nodup (nodup_shape_mergeCalls _)
          (nodup_shape_mergeCalls _)).mpr fun ⟨target, kind, origin⟩ => ?_
        refine (mem_shape_calls_assembled hn).trans (Iff.trans ?_
          (mem_shape_calls_assembled hn').symm)
        rw [declaresCall_congr h, callsInto_congr h]
      events := by
        refine (List.perm_ext_iff_of_nodup (nodup_eraseDups _) (nodup_eraseDups _)).mpr
          fun event => ?_
        refine (mem_events_assembled hn).trans (Iff.trans ?_ (mem_events_assembled hn').symm)
        simp only [tagOf_congr h]
      autoSync := by
        rw [Bool.eq_iff_iff, autoSync_assembled_iff hn, autoSync_assembled_iff hn']
        simp only [tagOf_congr h] }

end Behaviors

end Partition

section Matching

variable {α β γ : Type}

/-- The elements of the lists are related one to one, in some order. -/
def MatchUpToOrder (R : α → β → Prop) : List α → List β → Prop :=
  Relation.Comp List.Perm (List.Forall₂ R)

theorem MatchUpToOrder.perm {R : α → β → Prop} {xs xs' : List α} {ys ys' : List β}
    (h : MatchUpToOrder R xs ys) (hxs : xs'.Perm xs) (hys : ys.Perm ys') :
    MatchUpToOrder R xs' ys' := by
  obtain ⟨zs, hzs, hmatch⟩ := h
  have hcomp : Relation.Comp (List.Forall₂ R) List.Perm zs ys' := ⟨ys, hmatch, hys⟩
  rw [List.forall₂_comp_perm_eq_perm_comp_forall₂] at hcomp
  obtain ⟨zs', hperm, hmatch'⟩ := hcomp
  exact ⟨zs', (hxs.trans hzs).trans hperm, hmatch'⟩

theorem exists_forall₂_of_step {S : α → β → Prop} {T : α → γ → Prop} {R : β → γ → Prop}
    {xs : List α} {ys : List β} (h : List.Forall₂ S xs ys)
    (hstep : ∀ x ∈ xs, ∀ y, S x y → ∃ z, T x z ∧ R y z) :
    ∃ zs, List.Forall₂ T xs zs ∧ List.Forall₂ R ys zs := by
  induction h with
  | nil => exact ⟨[], .nil, .nil⟩
  | cons hy _ ih =>
    obtain ⟨z, hz, hR⟩ := hstep _ (by simp) _ hy
    obtain ⟨zs, hzs, hRs⟩ := ih fun x hx => hstep x (by simp [hx])
    exact ⟨z :: zs, .cons hz hzs, .cons hR hRs⟩

theorem Outcome.exists_mapM_match {f : α → Outcome β} {g : α → Outcome γ} {R : β → γ → Prop}
    {xs xs' : List α} {ys : List β} (hxs : xs.Perm xs') (h : xs.mapM f = .ok ys)
    (hstep : ∀ x ∈ xs', ∀ y, f x = .ok y → ∃ z, g x = .ok z ∧ R y z) :
    ∃ zs, xs'.mapM g = .ok zs ∧ MatchUpToOrder R ys zs := by
  obtain ⟨us, hus, hperm⟩ := List.perm_comp_forall₂ hxs.symm (mapM_eq_ok_iff.mp h)
  obtain ⟨zs, hzs, hmatch⟩ := exists_forall₂_of_step hus hstep
  exact ⟨zs, mapM_eq_ok_iff.mpr hzs, us, hperm.symm, hmatch⟩

end Matching

namespace SharingPlan

variable {usedBy usedBy' : String → Option (List String)} {callCount callCount' : String → Int}
  {name : String} {plan : SharingPlan}

theorem name_of_forFunction (h : forFunction usedBy callCount name = .ok plan) :
    plan.name = name := by
  obtain ⟨_, _, _, _, _, rfl⟩ := forFunction_eq_ok_iff.mp h
  rfl

/-- A plan depends on how many behaviors and functions use the function, and on no order. -/
theorem exists_forFunction_agrees
    (hused : ∀ bs, usedBy name = some bs → ∃ bs', usedBy' name = some bs' ∧ bs.Perm bs')
    (hcount : callCount name = callCount' name) (h : forFunction usedBy callCount name = .ok plan) :
    ∃ plan', forFunction usedBy' callCount' name = .ok plan' ∧ plan.Agrees plan' := by
  obtain ⟨bs, benefit, hbs, hbenefit, hsound, rfl⟩ := forFunction_eq_ok_iff.mp h
  obtain ⟨bs', hbs', hperm⟩ := hused bs hbs
  rw [hcount, hperm.length_eq] at hbenefit
  refine ⟨_, forFunction_eq_ok_iff.mpr ⟨bs', benefit, hbs', hbenefit, ?_, rfl⟩, hperm, ?_⟩
  · simpa [Checked.defect?, hperm.length_eq, hcount] using hsound
  · simp only [hcount, hperm.length_eq]

end SharingPlan

theorem names_of_plans {functions : List FunctionDecl} {r : Reach} {plans : List SharingPlan}
    (h : r.plans functions = .ok plans) :
    (plans.map (·.name)).Perm ((r.shared functions).map (·.name)) := by
  obtain ⟨unsorted, hunsorted, h⟩ := Outcome.bind_eq_ok_iff.mp h
  obtain rfl := Except.ok.inj h
  have hnames : unsorted.map (·.name) = (r.shared functions).map (·.name) := by
    rw [← List.forall₂_eq_eq_eq, List.forall₂_map_left_iff]
    have hforall := (Outcome.mapM_eq_ok_iff.mp hunsorted).flip
    exact hforall.imp fun _ _ hplan => SharingPlan.name_of_forFunction hplan
  rw [← hnames]
  exact (SharingPlan.sortByBenefit_perm unsorted).map _

section Plans

variable {functions functions' : List FunctionDecl} (h : functions.Perm functions')
  (hn : (functions.map (·.name)).Nodup)

include h hn

theorem exists_plan_agrees {f : FunctionDecl} (hf : f ∈ functions) {plan : SharingPlan}
    (hplan : SharingPlan.forFunction (reachOf functions).usedBy?
      (fun n => (reachOf functions).callCount n) f.name = .ok plan) :
    ∃ plan', SharingPlan.forFunction (reachOf functions').usedBy?
      (fun n => (reachOf functions').callCount n) f.name = .ok plan' ∧ plan.Agrees plan' := by
  have hcount : ((reachOf functions).callCount f.name : Int) =
      (reachOf functions').callCount f.name := by
    rw [callCount_congr h hn]
  exact SharingPlan.exists_forFunction_agrees (fun _ => exists_usedBy?_perm h hn hf) hcount hplan

theorem exists_plans_agree {plans : List SharingPlan}
    (hplans : (reachOf functions).plans functions = .ok plans) :
    ∃ plans', (reachOf functions').plans functions' = .ok plans' ∧
      MatchUpToOrder SharingPlan.Agrees plans plans' := by
  obtain ⟨unsorted, hunsorted, hplans⟩ := Outcome.bind_eq_ok_iff.mp hplans
  obtain rfl := Except.ok.inj hplans
  have hshared := (shared_perm h hn).map (·.name)
  obtain ⟨unsorted', hunsorted', hmatch⟩ :=
    Outcome.exists_mapM_match hshared hunsorted fun name hname plan hplan => by
      obtain ⟨f, hf, rfl⟩ := List.mem_map.mp hname
      exact exists_plan_agrees h hn (h.mem_iff.mpr (List.mem_filter.mp hf).1) hplan
  refine ⟨SharingPlan.sortByBenefit unsorted', ?_, ?_⟩
  · exact Outcome.bind_eq_ok_iff.mpr ⟨unsorted', hunsorted', rfl⟩
  · exact hmatch.perm (SharingPlan.sortByBenefit_perm unsorted)
      (SharingPlan.sortByBenefit_perm unsorted').symm

end Plans

namespace Partition

/-- Partitions that differ in orders only. Every shared function has one plan, which tells the
behaviors that use it, how often it is called, and all that follows from that. -/
structure Agrees (p p' : Partition) : Prop where
  blocking : p.blocking = p'.blocking
  behaviors : MatchUpToOrder Behavior.Agrees p.behaviors p'.behaviors
  sharedFunctions : p.sharedFunctions.Perm p'.sharedFunctions
  planned : (p.plans.map (·.name)).Perm (p.sharedFunctions.map (·.name))
  plans : MatchUpToOrder SharingPlan.Agrees p.plans p'.plans

variable {config : Config} {functions functions' : List FunctionDecl} {p p' : Partition}

theorem assembledAll_agrees (h : functions.Perm functions')
    (hn : (functions.map (·.name)).Nodup) :
    MatchUpToOrder Behavior.Agrees (assembledAll functions) (assembledAll functions') := by
  refine ⟨(homes functions').map (assembled functions (ownersOf functions) (reachOf functions)),
    (homes_perm h).map _, ?_⟩
  rw [assembledAll, List.forall₂_map_left_iff, List.forall₂_map_right_iff, List.forall₂_same]
  exact fun name _ => assembled_agrees h hn name

theorem blocking_congr (h : functions.Perm functions')
    (hp : ofFunctions config functions = .ok p) (hp' : ofFunctions config functions' = .ok p') :
    p.blocking = p'.blocking := by
  have hiff : p.blocking = false ↔ p'.blocking = false := by
    rw [blocking_eq_false_iff hp, blocking_eq_false_iff hp']
    exact ⟨Partitionable.of_perm h, Partitionable.of_perm h.symm⟩
  rw [Bool.eq_iff_iff, ← not_iff_not, Bool.not_eq_true, Bool.not_eq_true, hiff]

theorem agrees_of_ofFunctions (h : functions.Perm functions')
    (hp : ofFunctions config functions = .ok p) (hp' : ofFunctions config functions' = .ok p') :
    p.Agrees p' := by
  have hblocking := blocking_congr h hp hp'
  cases hb : p.blocking with
  | true =>
    obtain ⟨hbehaviors, hshared, hplans⟩ := eq_empty_of_blocking hp hb
    obtain ⟨hbehaviors', hshared', hplans'⟩ := eq_empty_of_blocking hp' (hblocking ▸ hb)
    refine ⟨hblocking, ?_, ?_, ?_, ?_⟩
    · rw [hbehaviors, hbehaviors']
      exact ⟨[], .refl _, .nil⟩
    · rw [hshared, hshared']
    · rw [hplans, hshared]
      exact .refl _
    · rw [hplans, hplans']
      exact ⟨[], .refl _, .nil⟩
  | false =>
    obtain ⟨ha, hbehaviors, hshared, hplans, -⟩ := ofFunctions_inv hp hb
    obtain ⟨-, hbehaviors', hshared', hplans', -⟩ := ofFunctions_inv hp' (hblocking ▸ hb)
    obtain ⟨plans, hok, hmatch⟩ := exists_plans_agree h ha.nodup hplans
    obtain rfl : plans = p'.plans := Except.ok.inj (hok.symm.trans hplans')
    refine ⟨hblocking, ?_, ?_, ?_, hmatch⟩
    · rw [hbehaviors, hbehaviors']
      exact assembledAll_agrees h ha.nodup
    · rw [hshared, hshared']
      exact shared_perm h ha.nodup
    · rw [hshared]
      exact names_of_plans hplans

theorem exists_ofFunctions_of_perm (h : functions.Perm functions')
    (hvalid : ∀ f ∈ functions, Checked.defect? f = none)
    (hp : ofFunctions config functions = .ok p) : ∃ p', ofFunctions config functions' = .ok p' := by
  refine exists_ofFunctions_of_plans (fun f hf => hvalid f (h.mem_iff.mpr hf)) fun ha hfindings => ?_
  have hpartitionable := Partitionable.of_perm h.symm (partitionable_iff.mpr ⟨ha, hfindings⟩)
  have hb := (blocking_eq_false_iff hp).mpr hpartitionable
  obtain ⟨haccepted, -, -, hplans, -⟩ := ofFunctions_inv hp hb
  obtain ⟨plans, hok, -⟩ := exists_plans_agree h haccepted.nodup hplans
  exact ⟨plans, hok⟩

/-- Partitioning valid functions in another order changes nothing but orders. There is a partition
as long as the number of functions is in the range of doubles. -/
theorem agrees_of_perm (config : Config) (functions functions' : List FunctionDecl)
    (h : functions.Perm functions') (hvalid : ∀ f ∈ functions, Checked.defect? f = none) :
    (∀ p, ofFunctions config functions = .ok p →
      ∃ p', ofFunctions config functions' = .ok p' ∧ p.Agrees p') ∧
    (functions.length ≤ Nat.pow 2 1023 → ∃ p, ofFunctions config functions = .ok p) := by
  refine ⟨fun p hp => ?_, fun hlength => ?_⟩
  · obtain ⟨p', hp'⟩ := exists_ofFunctions_of_perm h hvalid hp
    exact ⟨p', hp', agrees_of_ofFunctions h hp hp'⟩
  · exact exists_ofFunctions_eq_ok config hvalid (Double.holds_two_pow.mono hlength)

theorem agrees_doorAndLamp_reverse : ∃ p p', ofFunctions {} doorAndLamp = .ok p ∧
    ofFunctions {} doorAndLamp.reverse = .ok p' ∧ p.blocking = false ∧ p.Agrees p' := by
  obtain ⟨p, hp, hb⟩ := exists_doorAndLamp
  obtain ⟨p', hp', hagrees⟩ := (agrees_of_perm {} doorAndLamp doorAndLamp.reverse
    (List.reverse_perm _).symm sound_doorAndLamp).1 p hp
  exact ⟨p, p', hp, hp', hb, hagrees⟩

end Partition

end BehaviorPlan
