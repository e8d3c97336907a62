import BehaviorPlan.Proofs.Analysis.Report

/-! # Chains in an analysis

The analysis keeps the longest chains of the roots. The first of them tells the depth, and whether
any chain is worth an advisory. -/
namespace BehaviorPlan.Analysis

variable {config : Config} {behaviors : List Behavior} {g : Graph} {a : Analysis}

/-- What an analysis says about the chains of its graph. -/
structure ReportsChains (config : Config) (g : Graph) (a : Analysis) : Prop where
  roots : a.roots = g.roots
  /-- One first longest simple path for each root, the longest first, as many as are kept. -/
  chains : ∃ all sorted, List.Forall₂ g.FirstLongest g.roots all ∧
    Graph.LongestFirst all sorted ∧ a.chains = sorted.take config.maxChains.toNat
  chains_eq_nil_iff : a.chains = [] ↔ g.roots = []
  maxDepth : a.metrics.maxDepth = ((a.chains.head?.map List.length).getD 0 : Nat)
  deep_iff : (∃ w ∈ a.advisories, w.kind = .deepDependencyChain) ↔
    config.deepChainThreshold < a.metrics.maxDepth
  greatest : g.Acyclic →
    (∃ path, g.DirectedPath path ∧ (path.length : Int) = a.metrics.maxDepth) ∧
      ∀ path, g.DirectedPath path → (path.length : Int) ≤ a.metrics.maxDepth

theorem exists_deep_mem_adviceOn_iff {cycles : List Cycle} {chains : List (List String)}
    {metrics : Metrics} :
    (∃ w ∈ adviceOn config g cycles chains metrics, w.kind = .deepDependencyChain) ↔
      ∃ c ∈ chains, config.deepChainThreshold < (c.length : Int) := by
  simp only [adviceOn, List.mem_append, List.mem_map, List.mem_filter, decide_eq_true_eq]
  constructor
  · rintro ⟨w, hw, hkind⟩
    -- one case for each kind of advice, in the order in which it is given
    rcases hw with ((((⟨_, _, rfl⟩ | ⟨_, _, rfl⟩) | ⟨c, hc, rfl⟩) | hw) | ⟨_, _, rfl⟩) | ⟨_, _, rfl⟩
    · cases hkind
    · cases hkind
    · exact ⟨c, hc⟩
    · split at hw
      · simp at hw
      · obtain rfl := List.mem_singleton.mp hw
        cases hkind
    · cases hkind
    · cases hkind
  · rintro ⟨c, hc⟩
    exact ⟨chainAdvisory c, Or.inl (Or.inl (Or.inl (Or.inr ⟨c, hc, rfl⟩))), rfl⟩

theorem Parts.chains_eq (hg : g.Consistent) (h : a.Parts config behaviors g) :
    a.chains = g.sortedChains.take config.maxChains.toNat ∧
      a.metrics.maxDepth = g.deepestOf g.roots := by
  have hmetrics := h.metrics
  have hchains := h.chains
  rw [length_of_mapM_describe h.cycles] at hmetrics hchains
  obtain ⟨m, hm, hdepth⟩ := Graph.exists_metrics_eq_ok hg behaviors.length
  obtain rfl := Except.ok.inj (hm.symm.trans hmetrics)
  exact ⟨Except.ok.inj (hchains.symm.trans (Graph.longestChains_eq_ok hg config.maxChains)), hdepth⟩

theorem exists_lt_length_iff {k : Int} (hk : 0 ≤ k) {chains : List (List String)}
    (h : chains.Pairwise fun c d => d.length ≤ c.length) :
    (∃ c ∈ chains, k < (c.length : Int)) ↔ k < ((chains.head?.map List.length).getD 0 : Nat) := by
  cases chains with
  | nil => simpa using by omega
  | cons first rest =>
    refine ⟨fun ⟨c, hc, hlt⟩ => ?_, fun hlt => ⟨first, List.mem_cons_self .., hlt⟩⟩
    rcases List.mem_cons.mp hc with rfl | hc
    · exact hlt
    · exact hlt.trans_le (Int.ofNat_le.mpr ((List.pairwise_cons.mp h).1 c hc))

theorem Parts.reportsChains (hconfig : Checked.defect? config = none) (hg : g.Consistent)
    (h : a.Parts config behaviors g) : a.ReportsChains config g := by
  obtain ⟨hthreshold, hlimit⟩ : 1 ≤ config.deepChainThreshold ∧ 1 ≤ config.maxChains := by
    simp only [Checked.defect?, Option.or_eq_none_iff, defectIf_eq_none_iff,
      decide_eq_false_iff_not] at hconfig
    omega
  obtain ⟨hchains, hdepth⟩ := h.chains_eq hg
  have hsorted := Graph.longestFirst_sortedChains (g := g)
  -- at least one chain is kept, so the first one is
  have hfirst : a.chains.head? = g.sortedChains.head? := by
    rw [hchains, List.head?_take, if_neg (by omega)]
  have hmaxDepth : a.metrics.maxDepth = ((a.chains.head?.map List.length).getD 0 : Nat) := by
    rw [hdepth, Graph.deepestOf_roots_eq, hfirst]
  have hdescending : a.chains.Pairwise fun c d => d.length ≤ c.length :=
    hchains ▸ hsorted.descending.sublist (List.take_sublist ..)
  refine
    { roots := h.roots
      chains := ⟨g.roots.map (g.chainPast []), g.sortedChains, ?_, hsorted, hchains⟩
      chains_eq_nil_iff := ?_
      maxDepth := hmaxDepth
      deep_iff := ?_
      greatest := fun hacyclic => ?_ }
  · rw [List.forall₂_map_right_iff, List.forall₂_same]
    exact fun n _ => Graph.firstLongest_chainPast hg n
  · rw [← List.head?_eq_none_iff, hfirst, List.head?_eq_none_iff, ← List.length_eq_zero_iff,
      hsorted.perm.length_eq, List.length_map, List.length_eq_zero_iff]
  · rw [h.advisories, exists_deep_mem_adviceOn_iff, hmaxDepth]
    exact exists_lt_length_iff (by omega) hdescending
  · rw [hdepth]
    obtain ⟨path, hpath, hlength⟩ := Graph.exists_directedPath_deepestOf hg
    exact ⟨⟨path, hpath, by rw [hlength]⟩, fun other hother =>
      Int.ofNat_le.mpr (hother.length_le hg hacyclic)⟩

/-- Behaviors with distinct names can be analysed under every valid configuration, and the analysis
reports the chains of their graph. -/
theorem reportsChains_of_ofBehaviors (config : Config) (behaviors : List Behavior)
    (hconfig : Checked.defect? config = none) (hn : (behaviors.map (·.name)).Nodup) :
    ∃ g a, Graph.ofBehaviors behaviors = .ok g ∧ ofBehaviors config behaviors = .ok a ∧
      a.ReportsChains config g := by
  obtain ⟨g, hg, hsimple, hnodes, -, -⟩ := Graph.ofBehaviors_spec hn
  obtain ⟨a, ha⟩ := exists_ofGraph_eq_ok config hsimple.toConsistent hnodes
  exact ⟨g, a, hg, Outcome.bind_eq_ok_iff.mpr ⟨g, hg, ha⟩,
    (parts_of_ofGraph ha).reportsChains hconfig hsimple.toConsistent⟩

/-- An alarm at a door that needs a lamp, and a radio beside them. -/
def alarmAndRadio : List Behavior :=
  [{ name := "Radio" }, { name := "Alarm", calls := [{ target := "Door", kind := .direct }] },
    { name := "Door", calls := [{ target := "Lamp", kind := .direct }] }, { name := "Lamp" }]

def alarmGraph : Graph where
  nodes := ["Radio", "Alarm", "Door", "Lamp"]
  forward := ⟨[("Radio", []), ("Alarm", ["Door"]), ("Door", ["Lamp"]), ("Lamp", [])]⟩
  reverse := ⟨[("Radio", []), ("Alarm", []), ("Door", ["Alarm"]), ("Lamp", ["Door"])]⟩

theorem reportsChains_alarmAndRadio :
    ∃ a, ofBehaviors { deepChainThreshold := 2, maxChains := 1 } alarmAndRadio = .ok a ∧
      a.ReportsChains { deepChainThreshold := 2, maxChains := 1 } alarmGraph ∧
      alarmGraph.DirectedPath ["Alarm", "Door", "Lamp"] ∧
      ∃ w ∈ a.advisories, w.kind = .deepDependencyChain := by
  obtain ⟨g, a, hg, ha, hreports⟩ := reportsChains_of_ofBehaviors
    { deepChainThreshold := 2, maxChains := 1 } alarmAndRadio (by decide +kernel) (by decide)
  have hgraph : Graph.ofBehaviors alarmAndRadio = .ok alarmGraph := by decide +kernel
  obtain rfl := Except.ok.inj (hgraph.symm.trans hg)
  have hpath : alarmGraph.DirectedPath ["Alarm", "Door", "Lamp"] :=
    ⟨by decide, by simp [Graph.Edge, Graph.dependencies, Table.get?, alarmGraph, List.lookup_cons]⟩
  have hcycles : alarmGraph.cycles = [] := by
    simp [Graph.cycles, Graph.cyclesFrom, Graph.frame, alarmGraph, Graph.dependencies, Table.get?,
      List.lookup_cons]
  have hacyclic := (Graph.cycles_eq_nil_iff (Graph.consistent_of_sound (by decide))).mp hcycles
  have hdepth : 3 ≤ a.metrics.maxDepth := (hreports.greatest hacyclic).2 _ hpath
  exact ⟨a, ha, hreports, hpath, hreports.deep_iff.mpr (by dsimp only; omega)⟩

end BehaviorPlan.Analysis
