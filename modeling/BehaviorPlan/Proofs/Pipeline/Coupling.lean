import Mathlib.Algebra.Order.BigOperators.Group.List
import Mathlib.Algebra.Order.Field.Basic
import Mathlib.Algebra.Order.Field.Rat
import BehaviorPlan.Proofs.Graph.Listing
import BehaviorPlan.Proofs.Partition.Content
import BehaviorPlan.Proofs.Pipeline.Stages

/-! # Coupling of a partition

No behavior of a partition calls itself. So every cycle between them joins several, each depends on
at most all others, and the share of possible dependencies that exist is a part of one. -/
namespace BehaviorPlan

namespace Metrics

/-- Quotients that are not rounded. -/
instance : Arithmetic ℚ where
  ratio m n := m / n
  sub a b := a - b
  lt a b := decide (a < b)

theorem couplingOf_rat {edgeCount count : Nat} (h : edgeCount ≤ count * (count - 1)) :
    0 ≤ (couplingOf edgeCount count : ℚ) ∧ (couplingOf edgeCount count : ℚ) ≤ 1 := by
  unfold couplingOf
  split
  · rename_i hcount
    have hpossible : 0 < count * (count - 1) := Nat.mul_pos (by omega) (by omega)
    constructor
    · exact div_nonneg (Nat.cast_nonneg _) (Nat.cast_nonneg _)
    · apply (div_le_one (Nat.cast_pos.mpr hpossible)).mpr
      exact Nat.cast_le.mpr h
  · simp [Arithmetic.ratio]

theorem cohesionOf_rat {coupling : ℚ} (h : coupling ≤ 1) : cohesionOf coupling = 1 - coupling := by
  have hone : (Arithmetic.ratio 1 1 : ℚ) = 1 := by simp [Arithmetic.ratio]
  rw [cohesionOf_eq, hone]
  simp [Arithmetic.lt, Arithmetic.sub, not_lt.mpr h]

theorem inUnitInterval_couplingOf {edgeCount count : Nat} (h : edgeCount ≤ count * (count - 1)) :
    (Quantity.real (couplingOf edgeCount count)).inUnitInterval = true := by
  obtain ⟨m, n, hle, hcoupling⟩ : ∃ m n, m ≤ n ∧
      (couplingOf edgeCount count : Double) = Double.ofRatio false m n := by
    unfold couplingOf
    split
    · exact ⟨_, _, h, ratio_double ..⟩
    · exact ⟨_, _, Nat.zero_le 1, ratio_double ..⟩
  obtain ⟨k, hone, hlimit⟩ := Double.exists_one_eq
  have hbound : m * Double.one ≤ Nat.pow 2 k * n := by
    rw [← hone, Nat.mul_comm]
    exact Nat.mul_le_mul_left _ hle
  obtain ⟨units, hunits, hone'⟩ := Double.exists_ofUnits_eq_finite false hlimit hbound
  rw [hcoupling, Double.ofRatio, hunits]
  exact Quantity.inUnitInterval_of_le_one (hone ▸ hone')

end Metrics

namespace Graph

variable {g : Graph}

theorem metrics_inv {count : Nat} {cycleCount : Option Int} {m : Metrics}
    (hcount : count = g.nodeCount) (h : g.metrics count cycleCount = .ok m) :
    m.coupling = .real (Metrics.couplingOf g.edgeCount count) ∧
      m.cohesion = .real (Metrics.cohesionOf (Metrics.couplingOf g.edgeCount count)) := by
  have hsame : (if count = 0 then g.nodeCount else count) = count := by
    split
    · exact hcount.symm
    · rfl
  obtain ⟨_, -, h⟩ := Outcome.bind_eq_ok_iff.mp h
  rw [hsame, checked_eq_ok_iff] at h
  obtain ⟨-, rfl⟩ := h
  exact ⟨rfl, rfl⟩

variable (hloop : ∀ n, ¬ g.Edge n n)

include hloop

/-- Nodes that do not depend on themselves depend on at most all others. -/
theorem length_edges_le (hg : g.Simple) :
    g.edges.length ≤ g.nodeCount * (g.nodeCount - 1) := by
  have hothers : ∀ n ∈ g.nodes, (g.dependencies n).length ≤ g.nodeCount - 1 := by
    intro n hn
    have hsubset : g.dependencies n ⊆ g.nodes.erase n := by
      intro b hb
      have hne : b ≠ n := fun he => hloop n (he ▸ hb)
      exact (List.mem_erase_of_ne hne).mpr (hg.target_mem hb)
    calc (g.dependencies n).length
        ≤ (g.nodes.erase n).length :=
          ((hg.dependencies_nodup n).subperm hsubset).length_le
      _ = g.nodeCount - 1 := List.length_erase_of_mem hn
  have hsum := List.sum_le_card_nsmul (g.nodes.map fun n => (g.dependencies n).length)
    (g.nodeCount - 1) (by simpa using hothers)
  rw [edges, List.length_flatMap]
  simpa [nodeCount] using hsum

theorem IsCycle.exists_ne {c : List String} (h : g.IsCycle c) : ∃ m ∈ c, ∃ n ∈ c, m ≠ n := by
  obtain ⟨a, b, ha, hb, hab⟩ := h.closing
  refine ⟨a, List.mem_of_getLast? ha, b, List.mem_of_head? hb, ?_⟩
  rintro rfl
  exact hloop a hab

end Graph

/-- What holds of an analysis if no behavior calls itself. -/
structure Analysis.Bounded (behaviors : List Behavior) (edgeCount : Nat) (a : Analysis) : Prop where
  behaviorCount : a.behaviorCount = behaviors.length
  cycles : ∀ c ∈ a.cycles, ∃ m ∈ c.behaviors, ∃ n ∈ c.behaviors, m ≠ n
  dependencyCount : a.dependencyCount = edgeCount
  edgeCount_le : edgeCount ≤ behaviors.length * (behaviors.length - 1)
  coupling : a.metrics.coupling = .real (Metrics.couplingOf edgeCount behaviors.length)
  cohesion : a.metrics.cohesion =
    .real (Metrics.cohesionOf (Metrics.couplingOf edgeCount behaviors.length))
  coupling_range : a.metrics.coupling.inUnitInterval = true
  exactCoupling_nonneg : 0 ≤ (Metrics.couplingOf edgeCount behaviors.length : ℚ)
  exactCoupling_le : (Metrics.couplingOf edgeCount behaviors.length : ℚ) ≤ 1
  exactCohesion : Metrics.cohesionOf (Metrics.couplingOf edgeCount behaviors.length : ℚ) =
    1 - Metrics.couplingOf edgeCount behaviors.length

theorem Analysis.exists_bounded (config : Config) {behaviors : List Behavior}
    (hn : (behaviors.map (·.name)).Nodup) (hself : ∀ n, ¬ DirectCall behaviors n n) :
    ∃ a edgeCount, Analysis.ofBehaviors config behaviors = .ok a ∧
      a.Bounded behaviors edgeCount := by
  obtain ⟨g, hg, hsimple, hnodes, hedge, -⟩ := Graph.ofBehaviors_spec hn
  obtain ⟨a, ha⟩ := exists_ofGraph_eq_ok config hsimple.toConsistent hnodes
  have hloop : ∀ n, ¬ g.Edge n n := fun n he => hself n ((hedge n n).mp he).1
  have hcount : behaviors.length = g.nodeCount := by
    rw [Graph.nodeCount, hnodes, List.length_map]
  have hparts := parts_of_ofGraph ha
  have hcycles := behaviors_of_mapM_describe hparts.cycles
  obtain ⟨hcoupling, hcohesion⟩ := Graph.metrics_inv hcount hparts.metrics
  have hle : g.edgeCount ≤ behaviors.length * (behaviors.length - 1) := by
    have hlength : g.edges.length = g.edgeCount := (Graph.keeps_of_ofEdges hg).length_edges
    rw [← hlength, hcount]
    exact Graph.length_edges_le hloop hsimple
  obtain ⟨hnonneg, hone⟩ := Metrics.couplingOf_rat hle
  refine ⟨a, g.edgeCount, Outcome.bind_eq_ok_iff.mpr ⟨g, hg, ha⟩,
    { behaviorCount := hparts.behaviorCount.trans (congrArg _ hcount.symm)
      cycles := ?_
      dependencyCount := hparts.dependencyCount
      edgeCount_le := hle
      coupling := hcoupling
      cohesion := hcohesion
      coupling_range := hcoupling ▸ Metrics.inUnitInterval_couplingOf hle
      exactCoupling_nonneg := hnonneg
      exactCoupling_le := hone
      exactCohesion := Metrics.cohesionOf_rat hone }⟩
  intro c hc
  apply Graph.IsCycle.exists_ne hloop
  apply Graph.isCycle_of_mem_cycles
  rw [← hcycles]
  exact List.mem_map_of_mem hc

/-- No behavior of a partition calls itself directly, and under every configuration the analysis of
its behaviors succeeds and is bounded. -/
theorem Partition.bounded_of_ofFunctions (config : Config) (functions : List FunctionDecl)
    (p : Partition) (h : ofFunctions config functions = .ok p) (hb : p.blocking = false)
    (other : Config) :
    (∀ b ∈ p.behaviors, ∀ c ∈ b.calls, c.kind = .direct → c.target ≠ b.name) ∧
      ∃ a edgeCount, Analysis.ofBehaviors other p.behaviors = .ok a ∧
        a.Bounded p.behaviors edgeCount := by
  have hself : ∀ n, ¬ DirectCall p.behaviors n n := not_directCall_self h hb
  constructor
  · intro b hm c hc hkind htarget
    exact hself b.name ⟨b, hm, rfl, c, hc, hkind, htarget⟩
  · exact Analysis.exists_bounded other (wellNamed_of_ofFunctions h).nodup hself

theorem Partition.bounded_doorAndLamp : ∃ p, ofFunctions {} doorAndLamp = .ok p ∧
    p.blocking = false ∧
    (∀ b ∈ p.behaviors, ∀ c ∈ b.calls, c.kind = .direct → c.target ≠ b.name) ∧
      ∃ a edgeCount, Analysis.ofBehaviors {} p.behaviors = .ok a ∧
        a.Bounded p.behaviors edgeCount := by
  obtain ⟨p, hp, hb⟩ := exists_doorAndLamp
  exact ⟨p, hp, hb, bounded_of_ofFunctions {} doorAndLamp p hp hb {}⟩

end BehaviorPlan
