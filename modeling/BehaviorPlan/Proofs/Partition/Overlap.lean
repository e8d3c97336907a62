import BehaviorPlan.Proofs.Partition.Linkage

/-! # Sharing among any behaviors

What behaviors share can be asked of any behaviors and functions, also if behaviors list the same
function and if functions are declared several times. A name then refers to its first declaration,
and a function belongs to the last behavior that lists it. The walks find the helpers to which
chains of calls lead, and every shared helper has its plan. A helper that is declared several times
is listed as often. -/
namespace BehaviorPlan

/-- The behavior that holds a function is the last one that lists it. -/
def holder? (behaviors : List Behavior) (name : String) : Option String :=
  (behaviors.filter fun b => name ∈ b.memberNames).getLast?.map (·.name)

/-- The function of the one name calls a helper of the other name. -/
def CallsByName (functions : List FunctionDecl) (caller helper : String) : Prop :=
  IsHelper functions helper ∧ ∃ f, declaration? functions caller = some f ∧ helper ∈ f.calls

/-- A chain of calls through helpers leads from a tagged function that the behavior holds. -/
def Uses (behaviors : List Behavior) (functions : List FunctionDecl) (behavior helper : String) :
    Prop :=
  ∃ f ∈ functions, f.isTagged = true ∧ holder? behaviors f.name = some behavior ∧
    Relation.TransGen (CallsByName functions) f.name helper

section Walks

variable {functions : List FunctionDecl} {owners : Table String} {behavior : String}

theorem followed_rootsOf_iff_chain {call : String × String} :
    Followed functions (rootsOf functions owners behavior) call ↔
      ∃ root, (root, behavior) ∈ owners.entries ∧ ∃ last f,
        Relation.ReflTransGen (CallsByName functions) root last ∧
          declaration? functions last = some f ∧ call ∈ Trace.callsOf f := by
  constructor
  · intro h
    induction h with
    | start hc =>
      obtain ⟨root, he, f, hf, hc⟩ := mem_rootsOf_iff.mp hc
      exact ⟨root, he, root, f, .refl, hf, hc⟩
    | next _ hd htag hs ih =>
      obtain ⟨root, he, last, f, hchain, hf, hc⟩ := ih
      have hstep := hchain.tail ⟨⟨_, hd, htag⟩, f, hf, (mem_callsOf.mp hc).2⟩
      exact ⟨root, he, _, _, hstep, hd, hs⟩
  · rintro ⟨root, he, last, f, hchain, hf, hc⟩
    induction hchain generalizing f call with
    | refl => exact .start (mem_rootsOf_iff.mpr ⟨root, he, f, hf, hc⟩)
    | @tail _ last _ hcall ih =>
      obtain ⟨⟨g, hg, htag⟩, caller, hcaller, hcalls⟩ := hcall
      obtain rfl := Option.some.inj (hg.symm.trans hf)
      have hlast : Followed functions (rootsOf functions owners behavior) (caller.name, last) :=
        ih caller hcaller (mem_callsOf.mpr ⟨rfl, hcalls⟩)
      exact .next hlast hg htag hc

theorem mem_helpers_traceFor_iff_chain {name : String} :
    name ∈ (traceFor functions owners behavior).helpers ↔
      ∃ root, (root, behavior) ∈ owners.entries ∧
        Relation.TransGen (CallsByName functions) root name := by
  rw [mem_helpers_traceFor]
  constructor
  · rintro ⟨hhelper, caller, hc⟩
    obtain ⟨root, he, last, f, hchain, hf, hc⟩ := followed_rootsOf_iff_chain.mp hc
    exact ⟨root, he, .tail' hchain ⟨hhelper, f, hf, (mem_callsOf.mp hc).2⟩⟩
  · rintro ⟨root, he, hchain⟩
    obtain ⟨last, hchain, hhelper, f, hf, hcalls⟩ := Relation.TransGen.tail'_iff.mp hchain
    exact ⟨hhelper, f.name, followed_rootsOf_iff_chain.mpr
      ⟨root, he, last, f, hchain, hf, mem_callsOf.mpr ⟨rfl, hcalls⟩⟩⟩

end Walks

section Owners

variable {behaviors : List Behavior} {functions : List FunctionDecl} {behavior name : String}

theorem holder?_concat (behaviors : List Behavior) (b : Behavior) (name : String) :
    holder? (behaviors ++ [b]) name =
      if name ∈ b.memberNames then some b.name else holder? behaviors name := by
  rw [holder?, List.filter_append]
  by_cases hb : name ∈ b.memberNames
  · simp [hb]
  · simp [hb, holder?]

theorem get?_ownersIn (behaviors : List Behavior) (functions : List FunctionDecl) (name : String) :
    (ownersIn behaviors functions).get? name =
      if name ∈ (functions.filter (·.isTagged)).map (·.name) then holder? behaviors name
      else none := by
  unfold ownersIn
  generalize (functions.filter (·.isTagged)).map (·.name) = tagged
  dsimp only
  induction behaviors using List.reverseRecOn with
  | nil => simp [holder?, Table.ofPairs]
  | append_singleton behaviors b ih =>
    rw [List.flatMap_append, List.flatMap_singleton, Table.get?_ofPairs_append_const, ih,
      holder?_concat]
    by_cases htag : name ∈ tagged
    · simp [htag]
    · simp [htag]

theorem nodup_keys_ownersIn (behaviors : List Behavior) (functions : List FunctionDecl) :
    (ownersIn behaviors functions).keys.Nodup :=
  Table.nodup_keys_ofPairs _

theorem mem_entries_ownersIn : (name, behavior) ∈ (ownersIn behaviors functions).entries ↔
    (∃ f ∈ functions, f.isTagged = true ∧ f.name = name) ∧
      holder? behaviors name = some behavior := by
  have htagged : name ∈ (functions.filter (·.isTagged)).map (·.name) ↔
      ∃ f ∈ functions, f.isTagged = true ∧ f.name = name := by
    simp [and_assoc]
  rw [← Table.get?_eq_some_iff (nodup_keys_ownersIn _ _), get?_ownersIn, ← htagged]
  split
  · rename_i hname
    exact (and_iff_right hname).symm
  · rename_i hname
    simp [hname]

theorem keys_ownersIn_subset : (ownersIn behaviors functions).keys ⊆ functions.map (·.name) := by
  intro key hkey
  obtain ⟨⟨_, _⟩, he, rfl⟩ := List.mem_map.mp hkey
  obtain ⟨⟨f, hf, _, rfl⟩, _⟩ := mem_entries_ownersIn.mp he
  exact List.mem_map_of_mem hf

theorem ofOwners_ownersIn_eq_reachFrom : Reach.ofOwners (ownersIn behaviors functions) functions =
    .ok (reachFrom functions (ownersIn behaviors functions)) := by
  refine Reach.ofOwners_eq_ok fun e he => ?_
  have hkey := keys_ownersIn_subset (List.mem_map_of_mem he)
  obtain ⟨f, hf, hname⟩ := List.mem_map.mp hkey
  exact Option.isSome_iff_exists.mp (List.find?_isSome.mpr ⟨f, hf, by simpa using hname⟩)

theorem mem_helpers_ownersIn :
    name ∈ (traceFor functions (ownersIn behaviors functions) behavior).helpers ↔
      Uses behaviors functions behavior name := by
  rw [mem_helpers_traceFor_iff_chain]
  constructor
  · rintro ⟨root, he, hchain⟩
    obtain ⟨⟨f, hf, htag, rfl⟩, hholder⟩ := mem_entries_ownersIn.mp he
    exact ⟨f, hf, htag, hholder, hchain⟩
  · rintro ⟨f, hf, htag, hholder, hchain⟩
    exact ⟨f.name, mem_entries_ownersIn.mpr ⟨⟨f, hf, htag, rfl⟩, hholder⟩, hchain⟩

theorem mem_usedBy_ownersIn :
    behavior ∈ (reachFrom functions (ownersIn behaviors functions)).usedBy name ↔
      Uses behaviors functions behavior name := by
  rw [usedBy_reachFrom, List.mem_filter, decide_eq_true_eq, mem_helpers_ownersIn,
    List.mem_eraseDups]
  refine and_iff_right_of_imp ?_
  rintro ⟨f, hf, htag, hholder, -⟩
  exact List.mem_map_of_mem (f := (·.2)) (mem_entries_ownersIn.mpr ⟨⟨f, hf, htag, rfl⟩, hholder⟩)

end Owners

section Sharing

variable {behaviors : List Behavior} {functions : List FunctionDecl}

theorem map_name_shared (r : Reach) : (r.shared functions).map (·.name) =
    (functions.map (·.name)).filter fun name => decide (2 ≤ (r.usedBy name).length) := by
  rw [List.filter_map]
  rfl

theorem count_name_shared {r : Reach} {f : FunctionDecl} (hf : f ∈ r.shared functions) :
    ((r.shared functions).map (·.name)).count f.name = (functions.map (·.name)).count f.name := by
  rw [map_name_shared]
  exact List.count_filter (List.mem_filter.mp hf).2

/-- A shared function that is declared several times is listed as often. -/
theorem nodup_name_shared_iff {r : Reach} : ((r.shared functions).map (·.name)).Nodup ↔
    ∀ f ∈ r.shared functions, (functions.map (·.name)).count f.name = 1 := by
  rw [List.nodup_iff_count_eq_one, List.forall_mem_map]
  exact forall₂_congr fun f hf => by rw [count_name_shared hf]

theorem mem_shared_ownersIn {f : FunctionDecl} :
    f ∈ (reachFrom functions (ownersIn behaviors functions)).shared functions ↔
      f ∈ functions ∧ ∃ a b, Uses behaviors functions a f.name ∧
        Uses behaviors functions b f.name ∧ a ≠ b := by
  rw [Reach.shared, List.mem_filter, decide_eq_true_eq,
    two_le_length_iff_of_nodup (nodup_usedBy_reachFrom f.name)]
  simp only [mem_usedBy_ownersIn]
  refine and_congr_right fun _ => ?_
  constructor
  · rintro ⟨a, ha, b, hb, hab⟩
    exact ⟨a, b, ha, hb, hab⟩
  · rintro ⟨a, b, ha, hb, hab⟩
    exact ⟨a, ha, b, hb, hab⟩

theorem sharedFunctions_eq_ok : sharedFunctions behaviors functions =
    .ok ((reachFrom functions (ownersIn behaviors functions)).shared functions) := by
  rw [sharedFunctions, ofOwners_ownersIn_eq_reachFrom]
  rfl

theorem name_plans_perm {r : Reach} {plans : List SharingPlan} (h : r.plans functions = .ok plans) :
    (plans.map (·.name)).Perm ((r.shared functions).map (·.name)) := by
  obtain ⟨unsorted, hunsorted, h⟩ := Outcome.bind_eq_ok_iff.mp h
  obtain rfl := Except.ok.inj h
  have hnames : unsorted.map (·.name) = (r.shared functions).map (·.name) := by
    rw [← List.forall₂_eq_eq_eq, List.forall₂_map_left_iff]
    refine (Outcome.mapM_eq_ok_iff.mp hunsorted).flip.imp fun plan name hplan => ?_
    obtain ⟨_, _, _, _, _, rfl⟩ := SharingPlan.forFunction_eq_ok_iff.mp hplan
    rfl
  exact hnames ▸ (SharingPlan.sortByBenefit_perm unsorted).map (·.name)

end Sharing

/-- What given behaviors share, with the plans for it. -/
structure SharedAmong (behaviors : List Behavior) (functions shared : List FunctionDecl)
    (plans : List SharingPlan) : Prop where
  sublist : shared.Sublist functions
  mem_iff : ∀ f, f ∈ shared ↔ f ∈ functions ∧ ∃ a b, Uses behaviors functions a f.name ∧
    Uses behaviors functions b f.name ∧ a ≠ b
  nodup_iff : (shared.map (·.name)).Nodup ↔
    ∀ f ∈ shared, (functions.map (·.name)).count f.name = 1
  plans_perm : (plans.map (·.name)).Perm (shared.map (·.name))
  two_users : ∀ plan ∈ plans, plan.usedBy.Nodup ∧ 2 ≤ plan.usedBy.length
  mem_usedBy_iff : ∀ plan ∈ plans, ∀ b, b ∈ plan.usedBy ↔ Uses behaviors functions b plan.name

/-- The shared functions of any behaviors and any functions are found, in the order of their
declarations, and there is one plan for each of them with two different users or more. No name is
listed twice exactly if the shared functions are declared once. -/
theorem exists_sharedAmong (behaviors : List Behavior) (functions : List FunctionDecl)
    (hvalid : ∀ f ∈ functions, Checked.defect? f = none)
    (hlength : functions.length ≤ Nat.pow 2 1023) :
    ∃ shared plans, sharedFunctions behaviors functions = .ok shared ∧
      sharingPlans behaviors functions = .ok plans ∧
        SharedAmong behaviors functions shared plans := by
  obtain ⟨plans, hplans⟩ := exists_plans_reachFrom
    (nodup_keys_ownersIn behaviors functions) keys_ownersIn_subset hvalid
    (Double.holds_two_pow.mono hlength)
  have hfound : sharingPlans behaviors functions = .ok plans := by
    rw [sharingPlans, ofOwners_ownersIn_eq_reachFrom]
    exact hplans
  refine ⟨_, plans, sharedFunctions_eq_ok, hfound,
    { sublist := List.filter_sublist
      mem_iff := fun f => mem_shared_ownersIn
      nodup_iff := nodup_name_shared_iff
      plans_perm := name_plans_perm hplans
      two_users := fun plan hplan => ?_
      mem_usedBy_iff := fun plan hplan b => ?_ }⟩
  · obtain ⟨f, hf, hname⟩ := List.mem_map.mp
      ((name_plans_perm hplans).mem_iff.mp (List.mem_map_of_mem hplan))
    rw [(Reach.eq_of_mem_plans hplans hplan).1, ← hname]
    exact ⟨nodup_usedBy_reachFrom f.name, of_decide_eq_true (List.mem_filter.mp hf).2⟩
  · rw [(Reach.eq_of_mem_plans hplans hplan).1]
    exact mem_usedBy_ownersIn

/-- Two tagged functions call a helper that is declared so many times. -/
def logged (copies : Nat) : List FunctionDecl :=
  { name := "open_door", tag := some { name := some "Door" }, calls := ["log"] } ::
    { name := "switch_lamp", tag := some { name := some "Lamp" }, calls := ["log"] } ::
      List.replicate copies { name := "log" }

def callers : List Behavior :=
  [{ name := "Door", members := [{ name := "open_door" }] },
    { name := "Lamp", members := [{ name := "switch_lamp" }] }]

def takenOver : List Behavior :=
  callers ++ [{ name := "Radio", members := [{ name := "open_door" }] }]

theorem log_mem_shared (behaviors : List Behavior) (copies : Nat) {a b : String}
    (ha : holder? behaviors "open_door" = some a) (hb : holder? behaviors "switch_lamp" = some b)
    (hab : a ≠ b) :
    { name := "log" } ∈ (reachFrom (logged (copies + 1))
      (ownersIn behaviors (logged (copies + 1)))).shared (logged (copies + 1)) := by
  have hhelper : IsHelper (logged (copies + 1)) "log" := ⟨_, rfl, rfl⟩
  have hopen : CallsByName (logged (copies + 1)) "open_door" "log" :=
    ⟨hhelper, _, rfl, List.mem_singleton_self _⟩
  have hswitch : CallsByName (logged (copies + 1)) "switch_lamp" "log" :=
    ⟨hhelper, _, rfl, List.mem_singleton_self _⟩
  refine mem_shared_ownersIn.mpr ⟨by simp [logged, List.replicate_succ], a, b, ?_, ?_, hab⟩
  · exact ⟨_, List.mem_cons_self .., rfl, ha, .single hopen⟩
  · exact ⟨_, List.mem_cons_of_mem _ (List.mem_cons_self ..), rfl, hb, .single hswitch⟩

theorem exists_sharedAmong_takenOver : ∃ shared plans,
    sharedFunctions takenOver (logged 1) = .ok shared ∧
      sharingPlans takenOver (logged 1) = .ok plans ∧
        SharedAmong takenOver (logged 1) shared plans ∧ { name := "log" } ∈ shared := by
  obtain ⟨shared, plans, hshared, hplans, hamong⟩ :=
    exists_sharedAmong takenOver (logged 1) (by decide) (Double.le_two_pow (by decide))
  refine ⟨shared, plans, hshared, hplans, hamong, ?_⟩
  obtain rfl := Except.ok.inj (sharedFunctions_eq_ok.symm.trans hshared)
  exact log_mem_shared takenOver 0 (a := "Radio") (b := "Lamp") (by decide) (by decide) (by decide)

/-- A helper that is declared twice is listed twice. -/
theorem not_nodup_name_shared : ¬ ∀ (behaviors : List Behavior) (functions : List FunctionDecl),
    (∀ b ∈ behaviors, Checked.defect? b = none) → (∀ f ∈ functions, Checked.defect? f = none) →
    ∃ shared plans, sharedFunctions behaviors functions = .ok shared ∧
      sharingPlans behaviors functions = .ok plans ∧ shared.Sublist functions ∧
        (shared.map (·.name)).Nodup ∧ (plans.map (·.name)).Perm (shared.map (·.name)) ∧
          ∀ plan ∈ plans, plan.usedBy.Nodup ∧ 2 ≤ plan.usedBy.length := by
  intro h
  obtain ⟨shared, _, hshared, -, -, hnodup, -⟩ := h callers (logged 2) (by decide) (by decide)
  obtain rfl := Except.ok.inj (sharedFunctions_eq_ok.symm.trans hshared)
  have hlog := log_mem_shared callers 1 (a := "Door") (b := "Lamp") (by decide) (by decide)
    (by decide)
  have hcount : ((logged 2).map (·.name)).count "log" = 2 := by decide
  have honce := nodup_name_shared_iff.mp hnodup _ hlog
  exact absurd (hcount.symm.trans honce) (by decide)

end BehaviorPlan
