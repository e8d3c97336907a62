import BehaviorPlan.Analysis.Report
import BehaviorPlan.Proofs.Graph.Cycles
import BehaviorPlan.Proofs.Graph.Roots
import BehaviorPlan.Proofs.Number.Range

/-! # The analysis succeeds

Behaviors on a cycle are nodes of the graph, so they are known when the cycle is described. Every
advisory says something, and the order covers all nodes. Quotients of counts are not negative, and
what the coupling leaves of one is a part of one, however large the coupling is. The analysis keeps
the cycles and the unknown targets of the graph as they are. -/
namespace BehaviorPlan

namespace Metrics

theorem cohesionOf_eq {α : Type} [Arithmetic α] (coupling : α) :
    cohesionOf coupling = Arithmetic.sub (Arithmetic.ratio 1 1)
      (if Arithmetic.lt (Arithmetic.ratio 1 1) coupling then Arithmetic.ratio 1 1 else coupling) :=
  rfl

theorem ratio_double (m n : Nat) : (Arithmetic.ratio m n : Double) = Double.ofRatio false m n := rfl

theorem sub_double (a b : Double) : Arithmetic.sub a b = a.sub b := rfl

theorem lt_double (a b : Double) : Arithmetic.lt a b = (Quantity.real a).lt (.real b) := rfl

theorem couplingOf_eq_ofRatio (edgeCount count : Nat) :
    ∃ m n, (couplingOf edgeCount count : Double) = Double.ofRatio false m n := by
  unfold couplingOf
  split <;> exact ⟨_, _, rfl⟩

theorem averageOf_eq_ofRatio (edgeCount count : Nat) :
    ∃ m n, (averageOf edgeCount count : Double) = Double.ofRatio false m n := by
  unfold averageOf
  split <;> exact ⟨_, _, rfl⟩

/-- In doubles, what is left of one is between zero and one, also if the coupling is larger. -/
theorem inUnitInterval_cohesionOf (m n : Nat) :
    (Quantity.real (cohesionOf (Double.ofRatio false m n))).inUnitInterval = true := by
  have hone : (Quantity.real (.finite false Double.one)).level? =
      some (.steps (Double.one : Nat)) := Quantity.level?_finite _
  rw [cohesionOf_eq, ratio_double, Double.ofRatio_one, sub_double, lt_double]
  rcases Double.ofRatio_cases m n with ⟨units, hd⟩ | hd <;> rw [hd]
  · split
    · exact Quantity.inUnitInterval_one_sub (Nat.le_refl _)
    · rename_i hle
      rw [Quantity.lt_eq_not_le hone (Quantity.level?_finite units),
        Quantity.le_eq_of_levels (Quantity.level?_finite units) hone] at hle
      simp only [Level.le, Bool.not_eq_true', Bool.not_eq_false, decide_eq_true_eq,
        Int.ofNat_le] at hle
      exact Quantity.inUnitInterval_one_sub hle
  · have hlt : (Quantity.real (.finite false Double.one)).lt (.real (.infinite false)) = true := rfl
    rw [if_pos hlt]
    exact Quantity.inUnitInterval_one_sub (Nat.le_refl _)

end Metrics

theorem Graph.exists_metrics_eq_ok {g : Graph} (hg : g.Consistent) (count : Nat) :
    ∃ m, g.metrics count (some g.cycles.length) = .ok m ∧ m.maxDepth = g.deepestOf g.roots := by
  refine ⟨_, Outcome.bind_eq_ok_iff.mpr ⟨_, maxDepth_eq_ok hg, checked_of_sound ?_⟩, rfl⟩
  obtain ⟨m, n, hcoupling⟩ := Metrics.couplingOf_eq_ofRatio g.edgeCount
    (if count = 0 then g.nodeCount else count)
  obtain ⟨m', n', haverage⟩ := Metrics.averageOf_eq_ofRatio g.edgeCount
    (if count = 0 then g.nodeCount else count)
  simp only [Checked.defect?, hcoupling, haverage, Option.or_eq_none_iff, defectIf_eq_none_iff,
    Quantity.not_ratio_lt_zero, Metrics.inUnitInterval_cohesionOf, Bool.not_true, and_true,
    decide_eq_false_iff_not, Option.getD_some]
  omega

theorem Behavior.exists_named_eq_ok {behaviors : List Behavior} {name : String}
    (h : name ∈ behaviors.map (·.name)) : ∃ b, Behavior.named behaviors name = .ok b := by
  obtain ⟨b, hb, hname⟩ := List.mem_map.mp h
  have hsome : (behaviors.reverse.find? (·.name = name)).isSome = true :=
    List.find?_isSome.mpr ⟨b, List.mem_reverse.mpr hb, decide_eq_true hname⟩
  obtain ⟨found, hfound⟩ := Option.isSome_iff_exists.mp hsome
  exact ⟨found, by rw [named, hfound]⟩

namespace Analysis

variable {config : Config} {behaviors : List Behavior} {g : Graph}

section Cycles

variable {cycle : List String}

theorem exists_describe_eq_ok (hne : cycle ≠ [])
    (hmem : ∀ n ∈ cycle, n ∈ behaviors.map (·.name)) :
    ∃ c, describe config behaviors cycle = .ok c := by
  have hlinks : ∃ declared, (links cycle).mapM (declares behaviors) = .ok declared := by
    refine Outcome.exists_mapM_eq_ok fun link hlink => ?_
    obtain ⟨b, hb⟩ := Behavior.exists_named_eq_ok (hmem link.1 (List.of_mem_zip hlink).1)
    exact ⟨_, Outcome.bind_eq_ok_iff.mpr ⟨b, hb, rfl⟩⟩
  obtain ⟨declared, hdeclared⟩ := hlinks
  refine ⟨_, Outcome.bind_eq_ok_iff.mpr ⟨declared, hdeclared, checked_of_sound ?_⟩⟩
  simp only [Checked.defect?, Option.or_eq_none_iff, defectIf_eq_none_iff, blank?_eq_none_iff]
  refine ⟨by simpa using hne, ?_⟩
  repeat refine append_ne_empty ?_
  decide

theorem behaviors_of_describe {c : Cycle} (h : describe config behaviors cycle = .ok c) :
    c.behaviors = cycle := by
  obtain ⟨_, _, h⟩ := Outcome.bind_eq_ok_iff.mp h
  obtain ⟨_, rfl⟩ := checked_eq_ok_iff.mp h
  rfl

theorem exists_mapM_describe_eq_ok (config : Config) (hg : g.Consistent)
    (hnodes : g.nodes = behaviors.map (·.name)) :
    ∃ cycles, g.cycles.mapM (describe config behaviors) = .ok cycles :=
  Outcome.exists_mapM_eq_ok fun _ hc =>
    have hcycle := Graph.isCycle_of_mem_cycles hc
    exists_describe_eq_ok hcycle.ne_nil fun _ hn => hnodes ▸ hcycle.mem_nodes hg hn

theorem behaviors_of_mapM_describe {cycles : List Cycle} {found : List (List String)}
    (h : found.mapM (describe config behaviors) = .ok cycles) :
    cycles.map (·.behaviors) = found := by
  have hpairs := Outcome.mapM_eq_ok_iff.mp h
  induction hpairs with
  | nil => rfl
  | cons hc _ ih =>
    rw [List.map_cons, behaviors_of_describe hc, ih (Outcome.mapM_eq_ok_iff.mpr ‹_›)]

theorem length_of_mapM_describe {cycles : List Cycle} {found : List (List String)}
    (h : found.mapM (describe config behaviors) = .ok cycles) : cycles.length = found.length := by
  rw [← behaviors_of_mapM_describe h, List.length_map]

end Cycles

theorem sound_of_mem_adviceOn {cycles : List Cycle} {chains : List (List String)}
    {metrics : Metrics} {a : Advisory} (h : a ∈ adviceOn config g cycles chains metrics) :
    Checked.defect? a = none := by
  simp only [adviceOn, List.mem_append, List.mem_map] at h
  simp only [Checked.defect?, blank?_eq_none_iff]
  rcases h with ((((⟨c, _, rfl⟩ | ⟨u, _, rfl⟩) | ⟨c, _, rfl⟩) | h) | ⟨n, _, rfl⟩) | ⟨n, _, rfl⟩
  case inl.inl.inr =>
    split at h
    · simp at h
    · obtain rfl := List.mem_singleton.mp h
      exact append_ne_empty (append_ne_empty (by decide))
  all_goals
    repeat refine append_ne_empty ?_
    decide

theorem exists_ofGraph_eq_ok (config : Config) (hg : g.Consistent)
    (hnodes : g.nodes = behaviors.map (·.name)) :
    ∃ a, ofGraph config behaviors g = .ok a := by
  obtain ⟨_, hforward⟩ := hg.exists_numbered_dependencies
  obtain ⟨_, hreverse⟩ := hg.exists_numbered_dependents
  obtain ⟨cycles, hcycles⟩ := exists_mapM_describe_eq_ok config hg hnodes
  obtain ⟨metrics, hmetrics, -⟩ := Graph.exists_metrics_eq_ok hg behaviors.length
  have hchains := Graph.longestChains_eq_ok hg config.maxChains
  rw [← length_of_mapM_describe hcycles] at hmetrics hchains
  refine ⟨_, Outcome.bind_eq_ok_iff.mpr ⟨_, hforward, Outcome.bind_eq_ok_iff.mpr
    ⟨cycles, hcycles, Outcome.bind_eq_ok_iff.mpr ⟨_, hreverse, Outcome.bind_eq_ok_iff.mpr
      ⟨metrics, hmetrics, Outcome.bind_eq_ok_iff.mpr ⟨_, hchains, Outcome.bind_eq_ok_iff.mpr
        ⟨_, checkedAll_of_sound fun _ => sound_of_mem_adviceOn, checked_of_sound ?_⟩⟩⟩⟩⟩⟩⟩
  have hcover := g.length_settle
  simp only [Checked.defect?, Option.or_eq_none_iff, defectIf_eq_none_iff, decide_eq_false_iff_not]
  omega

/-- What an analysis is made of. -/
structure Parts (config : Config) (behaviors : List Behavior) (g : Graph) (a : Analysis) :
    Prop where
  behaviorCount : a.behaviorCount = g.nodeCount
  dependencyCount : a.dependencyCount = g.edgeCount
  roots : a.roots = g.roots
  cycles : g.cycles.mapM (describe config behaviors) = .ok a.cycles
  metrics : g.metrics behaviors.length (some a.cycles.length) = .ok a.metrics
  chains : g.longestChains a.cycles.length config.maxChains = .ok a.chains
  advisories : a.advisories = adviceOn config g a.cycles a.chains a.metrics
  unknownTargets : a.unknownTargets = g.unknownTargets

theorem parts_of_ofGraph {a : Analysis} (h : ofGraph config behaviors g = .ok a) :
    a.Parts config behaviors g := by
  obtain ⟨_, -, h⟩ := Outcome.bind_eq_ok_iff.mp h
  obtain ⟨cycles, hcycles, h⟩ := Outcome.bind_eq_ok_iff.mp h
  obtain ⟨_, -, h⟩ := Outcome.bind_eq_ok_iff.mp h
  obtain ⟨metrics, hmetrics, h⟩ := Outcome.bind_eq_ok_iff.mp h
  obtain ⟨chains, hchains, h⟩ := Outcome.bind_eq_ok_iff.mp h
  obtain ⟨advisories, hadvisories, h⟩ := Outcome.bind_eq_ok_iff.mp h
  obtain ⟨_, rfl⟩ := checked_eq_ok_iff.mp h
  exact ⟨rfl, rfl, rfl, hcycles, hmetrics, hchains, (checkedAll_eq_ok_iff.mp hadvisories).2, rfl⟩

theorem ofGraph_inv {a : Analysis} (h : ofGraph config behaviors g = .ok a) :
    a.cycles.map (·.behaviors) = g.cycles ∧ a.unknownTargets = g.unknownTargets := by
  have hparts := parts_of_ofGraph h
  exact ⟨behaviors_of_mapM_describe hparts.cycles, hparts.unknownTargets⟩

theorem exists_ofBehaviors_eq_ok (config : Config) (hg : g.Consistent)
    (hnodes : g.nodes = behaviors.map (·.name)) :
    ∃ a, ofBehaviors config behaviors (some g) = .ok a := by
  obtain ⟨a, ha⟩ := exists_ofGraph_eq_ok config hg hnodes
  exact ⟨a, Outcome.bind_eq_ok_iff.mpr ⟨g, by simp [Graph.matching, hnodes], ha⟩⟩

theorem ofBehaviors_inv {a : Analysis} (h : ofBehaviors config behaviors (some g) = .ok a) :
    a.cycles.map (·.behaviors) = g.cycles ∧ a.unknownTargets = g.unknownTargets := by
  obtain ⟨g', hg', h⟩ := Outcome.bind_eq_ok_iff.mp h
  simp only [Graph.matching] at hg'
  split at hg'
  · obtain rfl := Except.ok.inj hg'
    exact ofGraph_inv h
  · simp at hg'

theorem hasCycles_eq_false_iff {a : Analysis} : a.hasCycles = false ↔ a.cycles = [] := by
  simp [hasCycles]

end Analysis

end BehaviorPlan
