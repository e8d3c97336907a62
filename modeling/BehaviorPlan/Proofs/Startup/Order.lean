import Mathlib.Data.List.Nodup
import BehaviorPlan.Proofs.Graph.Order
import BehaviorPlan.Startup.Coordinator
import BehaviorPlan.Startup.Order

/-! # Accepted startup orders

A manual order has no problems exactly if it is a startup order of the graph. So whichever way the
order is found, an order that is accepted is a startup order, and a refusal names a problem. The hints
name the coordinator and then the behaviors of the order, with priorities that grow. -/
namespace BehaviorPlan

namespace Startup

theorem repeats_eq_nil_iff (seen names : List String) :
    repeats seen names = [] ↔ names.Nodup ∧ ∀ n ∈ names, n ∉ seen := by
  induction names generalizing seen with
  | nil => simp [repeats]
  | cons n names ih =>
    unfold repeats
    rw [nodup_fresh_cons_iff]
    split
    · rename_i hn
      simp [hn]
    · rename_i hn
      simp [ih, hn]

theorem position?_of_mem {order : List String} {name : String} (h : name ∈ order) :
    position? order name = some (order.idxOf name) := by
  rw [position?, List.findIdx?_eq_some_of_exists ⟨name, h, by simp⟩, List.idxOf]
  rfl

theorem violation?_eq_none_iff {order : List String} {a b : String} (ha : a ∈ order)
    (hb : b ∈ order) : violation? order (a, b) = none ↔ order.idxOf b < order.idxOf a := by
  simp [violation?, position?_of_mem ha, position?_of_mem hb]

section Manual

variable {g : Graph} {order : List String}

theorem orderProblems_isEmpty_iff_fields : (orderProblems g order).isEmpty = true ↔
    (∀ n ∈ g.nodes, n ∈ order) ∧ (∀ n ∈ order, n ∈ g.nodes) ∧ order.Nodup ∧
      ∀ e ∈ g.edges, violation? order e = none := by
  have hunknown : (order.filter (· ∉ g.nodes)).eraseDups = [] ↔ ∀ n ∈ order, n ∈ g.nodes := by
    simp [eraseDups_eq_nil_iff, List.filter_eq_nil_iff]
  have hmissing : g.nodes.filter (· ∉ order) = [] ↔ ∀ n ∈ g.nodes, n ∈ order := by
    simp [List.filter_eq_nil_iff]
  simp only [OrderProblems.isEmpty, orderProblems, Bool.and_eq_true, List.isEmpty_iff, hunknown,
    hmissing, eraseDups_eq_nil_iff, repeats_eq_nil_iff, List.filterMap_eq_nil_iff]
  constructor
  · rintro ⟨⟨⟨hm, hu⟩, hd, _⟩, hv⟩
    rw [List.filter_eq_self.mpr fun n hn => decide_eq_true (hu n hn)] at hd
    exact ⟨hm, hu, hd, hv⟩
  · rintro ⟨hm, hu, hd, hv⟩
    exact ⟨⟨⟨hm, hu⟩, hd.filter _, by simp⟩, hv⟩

theorem orderProblems_isEmpty_iff (hg : g.Consistent) :
    (orderProblems g order).isEmpty = true ↔ g.IsStartupOrder order := by
  rw [orderProblems_isEmpty_iff_fields]
  constructor
  · rintro ⟨hm, hu, hd, hv⟩
    refine ⟨(List.perm_ext_iff_of_nodup hd hg.nodup).mpr fun n => ⟨hu n, hm n⟩, ?_⟩
    intro a b hab
    have ha := hm a (hg.source_mem hab)
    have hb := hm b (hg.target_mem hab)
    exact (violation?_eq_none_iff ha hb).mp (hv _ ((Graph.mem_edges_iff hg).mpr hab))
  · rintro ⟨hperm, hbefore⟩
    refine ⟨fun n => hperm.mem_iff.mpr, fun n => hperm.mem_iff.mp,
      hperm.nodup_iff.mpr hg.nodup, ?_⟩
    rintro ⟨a, b⟩ he
    have hab := (Graph.mem_edges_iff hg).mp he
    exact (violation?_eq_none_iff (hperm.mem_iff.mpr (hg.source_mem hab))
      (hperm.mem_iff.mpr (hg.target_mem hab))).mpr (hbefore hab)

theorem messages_ne_nil {p : OrderProblems} (h : p.isEmpty = false) : p.messages ≠ [] := by
  intro hm
  simp only [OrderProblems.messages, List.append_eq_nil_iff, List.map_eq_nil_iff] at hm
  obtain ⟨⟨⟨h₁, h₂⟩, h₃⟩, h₄⟩ := hm
  simp [OrderProblems.isEmpty, h₁, h₂, h₃, h₄] at h

theorem ne_empty_of_mem_messages {p : OrderProblems} {m : String} (h : m ∈ p.messages) :
    m ≠ "" := by
  simp only [OrderProblems.messages, List.mem_append, List.mem_map] at h
  rcases h with ((⟨n, _, rfl⟩ | ⟨n, _, rfl⟩) | ⟨n, _, rfl⟩) | ⟨v, _, rfl⟩
  all_goals
    repeat refine append_ne_empty ?_
    decide

end Manual

variable {settings : StartupSettings} {behaviors : List Behavior} {graph : Option Graph} {g : Graph}

theorem matching_of_nodes (h : g.nodes = behaviors.map (·.name)) :
    Graph.matching behaviors (some g) = .ok g := by
  simp [Graph.matching, h]

theorem order_of_automatic (hauto : settings.automaticOrder = true)
    (hmatch : Graph.matching behaviors graph = .ok g) :
    order settings behaviors graph = g.startupOrder := by
  simp [order, hauto, hmatch, bind, Except.bind]

theorem checkManual_of_matching (hmatch : Graph.matching behaviors graph = .ok g)
    (order : List String) : checkManual order behaviors graph =
      if (orderProblems g order).isEmpty then .ok ()
      else .error (.misordered (orderProblems g order)) := by
  simp [checkManual, hmatch, bind, Except.bind]

theorem checkManual_eq_ok_iff {order : List String} (hg : g.Consistent)
    (hmatch : Graph.matching behaviors graph = .ok g) :
    checkManual order behaviors graph = .ok () ↔ g.IsStartupOrder order := by
  rw [← orderProblems_isEmpty_iff hg, checkManual_of_matching hmatch]
  split <;> simp_all

/-- A manual order is returned as it is if it is a startup order, and refused with problems
otherwise. -/
theorem order_of_manual (hg : g.Consistent) (hmanual : settings.automaticOrder = false)
    (hmatch : Graph.matching behaviors graph = .ok g) :
    (g.IsStartupOrder settings.manualOrder ∧
        order settings behaviors graph = .ok settings.manualOrder) ∨
      (¬ g.IsStartupOrder settings.manualOrder ∧ ∃ problems : OrderProblems,
        problems.messages ≠ [] ∧
          order settings behaviors graph = .error (.misordered problems)) := by
  rw [← orderProblems_isEmpty_iff hg]
  cases h : (orderProblems g settings.manualOrder).isEmpty with
  | true =>
    left
    simp [order, hmanual, checkManual_of_matching hmatch, h, bind, Except.bind, pure, Except.pure]
  | false =>
    right
    refine ⟨Bool.false_ne_true, orderProblems g settings.manualOrder, messages_ne_nil h, ?_⟩
    simp [order, hmanual, checkManual_of_matching hmatch, h, bind, Except.bind]

section Priorities

variable {settings : StartupSettings} {order : List String}

theorem hints_eq_of_ne_nil (h : hints settings order ≠ []) :
    hints settings order = ⟨settings.coordinatorName, coordinatorPriority⟩ ::
      order.zipIdx.map fun (name, i) => ⟨name, i * priorityStep⟩ := by
  unfold hints at h ⊢
  split at h
  · rename_i hon
    rw [if_pos hon]
  · exact absurd rfl h

theorem script_hints (h : hints settings order ≠ []) :
    (hints settings order).map (·.script) = settings.coordinatorName :: order := by
  rw [hints_eq_of_ne_nil h, List.map_cons, List.map_map]
  exact congrArg (settings.coordinatorName :: ·) (List.zipIdx_map_fst 0 order)

theorem position_of_mem_hints {hint : OrderHint} (h : hint ∈ hints settings order) :
    hint = ⟨settings.coordinatorName, coordinatorPriority⟩ ∨
      ∃ i : Nat, order[i]? = some hint.script ∧ hint.priority = i * priorityStep := by
  rw [hints_eq_of_ne_nil (List.ne_nil_of_mem h)] at h
  rcases List.mem_cons.mp h with rfl | h
  · exact Or.inl rfl
  · obtain ⟨⟨name, i⟩, hi, rfl⟩ := List.mem_map.mp h
    exact Or.inr ⟨i, List.mem_zipIdx_iff_getElem?.mp hi, rfl⟩

theorem priority_hints_pairwise :
    ((hints settings order).map (·.priority)).Pairwise (· < ·) := by
  by_cases hnil : hints settings order = []
  · rw [hnil]
    exact List.Pairwise.nil
  rw [hints_eq_of_ne_nil hnil, List.map_cons, List.map_map, List.pairwise_cons, List.pairwise_map]
  constructor
  · intro priority hp
    obtain ⟨⟨name, i⟩, _, rfl⟩ := List.mem_map.mp hp
    simp only [Function.comp_apply, coordinatorPriority, priorityStep]
    omega
  · have hgrow : order.zipIdx.Pairwise fun p q => p.2 < q.2 := by
      rw [← List.pairwise_map (f := Prod.snd), List.zipIdx_map_snd]
      exact List.pairwise_lt_range'
    refine hgrow.imp fun {p q} hlt => ?_
    simp only [Function.comp_apply, priorityStep]
    omega

end Priorities

end Startup

end BehaviorPlan
