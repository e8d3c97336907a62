import Mathlib.Logic.Relation
import BehaviorPlan.Proofs.Graph.Linking
import BehaviorPlan.Proofs.Outcome

/-! # Edges of dependency graphs

A graph that passes its checks is consistent: its nodes are distinct, edges join nodes, and both
sides of the graph hold the same edges. The graph made from given edges lists every neighbour
once besides. The direct calls between behaviors always make such a graph. -/
namespace BehaviorPlan

namespace Graph

/-- `a` depends on `b`. -/
def Edge (g : Graph) (a b : String) : Prop :=
  b ∈ g.dependencies a

/-- No behavior depends on itself, directly or through others. -/
def Acyclic (g : Graph) : Prop :=
  ∀ n, ¬ Relation.TransGen g.Edge n n

structure Consistent (g : Graph) : Prop where
  nodup : g.nodes.Nodup
  source_mem : ∀ {a b}, g.Edge a b → a ∈ g.nodes
  target_mem : ∀ {a b}, g.Edge a b → b ∈ g.nodes
  mem_dependents_iff : ∀ {a b}, a ∈ g.dependents b ↔ g.Edge a b

/-- Besides, every neighbour is listed once. -/
structure Simple (g : Graph) : Prop extends Consistent g where
  dependencies_nodup : ∀ a, (g.dependencies a).Nodup
  dependents_nodup : ∀ a, (g.dependents a).Nodup

theorem mem_edges_iff {g : Graph} (hg : g.Consistent) {a b : String} :
    (a, b) ∈ g.edges ↔ g.Edge a b := by
  rw [mem_edges]
  exact ⟨And.right, fun h => ⟨hg.source_mem h, h⟩⟩

theorem exists_entry_of_mem_getD {t : Table (List String)} {key name : String}
    (h : name ∈ (t.get? key).getD []) : ∃ names, (key, names) ∈ t.entries ∧ name ∈ names := by
  cases hk : t.get? key with
  | none => simp [hk] at h
  | some names => exact ⟨names, Table.mem_entries_of_get? hk, by simpa [hk] using h⟩

theorem consistent_of_sound {g : Graph} (h : Checked.defect? g = none) : g.Consistent := by
  simp only [Checked.defect?, Option.or_eq_none_iff, defectIf_eq_none_iff, decide_eq_false_iff_not,
    Decidable.not_not, List.findSome?_eq_none_iff] at h
  obtain ⟨⟨hn, hf⟩, hr⟩ := h
  have forward : ∀ {a b}, g.Edge a b → a ∈ g.nodes ∧ b ∈ g.nodes ∧ a ∈ g.dependents b := by
    intro a b hab
    obtain ⟨names, hm, hb⟩ := exists_entry_of_mem_getD hab
    have hd := hf _ hm
    unfold forwardDefect? at hd
    split at hd
    · simp at hd
    · rename_i ha
      have hb' := List.findSome?_eq_none_iff.mp hd b hb
      split_ifs at hb' with hb₁ hb₂
      exact ⟨by simpa using ha, by simpa using hb₁, by simpa using hb₂⟩
  have backward : ∀ {a b}, a ∈ g.dependents b → g.Edge a b := by
    intro a b hab
    obtain ⟨names, hm, ha⟩ := exists_entry_of_mem_getD hab
    have hd := hr _ hm
    unfold reverseDefect? at hd
    split at hd
    · simp at hd
    · have ha' := List.findSome?_eq_none_iff.mp hd a ha
      split_ifs at ha' with ha₁ ha₂
      simpa [Edge] using ha₂
  exact ⟨hn, fun h => (forward h).1, fun h => (forward h).2.1, backward, fun h => (forward h).2.2⟩

section Numbers

variable {g : Graph} {neighbours : String → List String}

theorem exists_number_eq_ok {node : String} (h : node ∈ g.nodes) : ∃ i, g.number node = .ok i := by
  have hsome : (g.nodes.idxOf? node).isSome = true := List.isSome_idxOf?.mpr h
  obtain ⟨i, hi⟩ := Option.isSome_iff_exists.mp hsome
  exact ⟨i, by rw [number, hi]⟩

theorem exists_numbered_eq_ok (h : ∀ n, ∀ m ∈ neighbours n, m ∈ g.nodes) :
    ∃ numbers, g.numbered neighbours = .ok numbers :=
  Outcome.exists_mapM_eq_ok fun n _ =>
    Outcome.exists_mapM_eq_ok fun m hm => exists_number_eq_ok (h n m hm)

theorem Consistent.exists_numbered_dependencies (hg : g.Consistent) :
    ∃ numbers, g.numbered g.dependencies = .ok numbers :=
  exists_numbered_eq_ok fun _ _ hm => hg.target_mem hm

theorem Consistent.exists_numbered_dependents (hg : g.Consistent) :
    ∃ numbers, g.numbered g.dependents = .ok numbers :=
  exists_numbered_eq_ok fun _ _ hm => hg.source_mem (hg.mem_dependents_iff.mp hm)

end Numbers

section OfEdges

variable {nodes : List String} {edges : List (String × String)} {unknown : List UnknownTarget}

theorem exists_pair_of_mem_ofKeys {keys : List String} {value : String → List String}
    {entry : String × List String} (h : entry ∈ (Table.ofKeys keys value).entries) :
    entry.1 ∈ keys ∧ entry.2 = value entry.1 := by
  obtain ⟨k, hk, rfl⟩ := List.mem_map.mp h
  exact ⟨hk, rfl⟩

@[simp] theorem nodes_joined : (joined nodes edges unknown).nodes = nodes := rfl

@[simp] theorem dependencies_joined (a : String) :
    (joined nodes edges unknown).dependencies a = targetsOf edges a :=
  get?_side a

@[simp] theorem dependents_joined (b : String) :
    (joined nodes edges unknown).dependents b = sourcesOf edges b :=
  get?_side b

@[simp] theorem edge_joined {a b : String} :
    (joined nodes edges unknown).Edge a b ↔ (a, b) ∈ edges := by
  rw [Edge, dependencies_joined, mem_targetsOf]

theorem mem_nodes_of_mem_keys {nodeOf : String × String → String}
    (he : ∀ e ∈ edges, nodeOf e ∈ nodes) {key : String}
    (h : key ∈ (nodes ++ edges.map nodeOf).eraseDups) : key ∈ nodes := by
  rcases List.mem_append.mp (List.mem_eraseDups.mp h) with h | h
  · exact h
  · obtain ⟨e, hm, rfl⟩ := List.mem_map.mp h
    exact he e hm

theorem forwardDefect?_joined (he : ∀ e ∈ edges, e.1 ∈ nodes ∧ e.2 ∈ nodes)
    {entry : String × List String} (h : entry ∈ (joined nodes edges unknown).forward.entries) :
    (joined nodes edges unknown).forwardDefect? entry = none := by
  obtain ⟨hk, hv⟩ := exists_pair_of_mem_ofKeys h
  have hkey : entry.1 ∈ nodes := mem_nodes_of_mem_keys (fun e hm => (he e hm).1) hk
  rw [forwardDefect?, nodes_joined, if_neg (not_not.mpr hkey), List.findSome?_eq_none_iff]
  intro d hd
  rw [hv] at hd
  have hedge : (entry.1, d) ∈ edges := mem_targetsOf.mp hd
  rw [if_neg (not_not.mpr (he _ hedge).2), if_neg]
  rw [not_not, dependents_joined]
  exact mem_sourcesOf.mpr hedge

theorem reverseDefect?_joined (he : ∀ e ∈ edges, e.1 ∈ nodes ∧ e.2 ∈ nodes)
    {entry : String × List String} (h : entry ∈ (joined nodes edges unknown).reverse.entries) :
    (joined nodes edges unknown).reverseDefect? entry = none := by
  obtain ⟨hk, hv⟩ := exists_pair_of_mem_ofKeys h
  have hkey : entry.1 ∈ nodes := mem_nodes_of_mem_keys (fun e hm => (he e hm).2) hk
  rw [reverseDefect?, nodes_joined, if_neg (not_not.mpr hkey), List.findSome?_eq_none_iff]
  intro d hd
  rw [hv] at hd
  have hedge : (d, entry.1) ∈ edges := mem_sourcesOf.mp hd
  rw [if_neg (not_not.mpr (he _ hedge).1), if_neg]
  rw [not_not, dependencies_joined]
  exact mem_targetsOf.mpr hedge

/-- Edges between distinct nodes make a simple graph with exactly these edges. -/
theorem ofEdges_spec (hn : nodes.Nodup) (he : ∀ e ∈ edges, e.1 ∈ nodes ∧ e.2 ∈ nodes) :
    ∃ g, ofEdges nodes edges unknown = .ok g ∧ g.Simple ∧ g.nodes = nodes ∧
      (∀ a b, g.Edge a b ↔ (a, b) ∈ edges) ∧ g.unknownTargets = unknown := by
  have hsound : Checked.defect? (joined nodes edges unknown) = none := by
    simp only [Checked.defect?, Option.or_eq_none_iff, defectIf_eq_none_iff,
      decide_eq_false_iff_not, not_not, List.findSome?_eq_none_iff]
    exact ⟨⟨hn, fun _ => forwardDefect?_joined he⟩, fun _ => reverseDefect?_joined he⟩
  refine ⟨joined nodes edges unknown, (ofEdges_eq_checked ..).trans (checked_of_sound hsound),
    ⟨consistent_of_sound hsound, fun a => ?_, fun b => ?_⟩, rfl, fun _ _ => edge_joined, rfl⟩
  · rw [dependencies_joined]
    exact nodup_eraseDups _
  · rw [dependents_joined]
    exact nodup_eraseDups _

end OfEdges

end Graph

/-- A behavior of the name `a` calls `b` directly. -/
def DirectCall (behaviors : List Behavior) (a b : String) : Prop :=
  ∃ u ∈ behaviors, u.name = a ∧ ∃ c ∈ u.calls, c.kind = .direct ∧ c.target = b

namespace Graph

variable {behaviors : List Behavior}

theorem mem_edgesOf {a b : String} :
    (a, b) ∈ edgesOf behaviors ↔
      DirectCall behaviors a b ∧ b ∈ behaviors.map (·.name) := by
  simp only [edgesOf, edgesFrom, DirectCall, List.mem_flatMap, List.mem_map, List.mem_filter,
    Prod.mk.injEq, decide_eq_true_eq]
  constructor
  · rintro ⟨u, hu, c, ⟨hc, hm, hk⟩, rfl, rfl⟩
    exact ⟨⟨u, hu, rfl, c, hc, hk, rfl⟩, hm⟩
  · rintro ⟨⟨u, hu, rfl, c, hc, hk, rfl⟩, hm⟩
    exact ⟨u, hu, c, ⟨hc, hm, hk⟩, rfl, rfl⟩

/-- Behaviors with distinct names always have a graph; its edges are their direct calls. -/
theorem ofBehaviors_spec (hn : (behaviors.map (·.name)).Nodup) :
    ∃ g, ofBehaviors behaviors = .ok g ∧ g.Simple ∧ g.nodes = behaviors.map (·.name) ∧
      (∀ a b, g.Edge a b ↔ DirectCall behaviors a b ∧ b ∈ behaviors.map (·.name)) ∧
      g.unknownTargets = unknownTargetsOf behaviors := by
  have hends : ∀ e ∈ edgesOf behaviors,
      e.1 ∈ behaviors.map (·.name) ∧ e.2 ∈ behaviors.map (·.name) := by
    rintro ⟨a, b⟩ he
    obtain ⟨⟨u, hu, rfl, _⟩, hb⟩ := mem_edgesOf.mp he
    exact ⟨List.mem_map_of_mem hu, hb⟩
  obtain ⟨g, hg, hs, hnodes, hedge, hunknown⟩ :=
    @ofEdges_spec _ _ (unknownTargetsOf behaviors) hn hends
  have hgraph : ofBehaviors behaviors = .ok g := by
    rw [ofBehaviors, Survey.ofBehaviors_eq]
    exact hg
  exact ⟨g, hgraph, hs, hnodes, fun a b => (hedge a b).trans mem_edgesOf, hunknown⟩

theorem mem_unknownTargetsOf {u : UnknownTarget} :
    u ∈ unknownTargetsOf behaviors ↔ ∃ b ∈ behaviors, ∃ c ∈ b.calls,
      c.target ∉ behaviors.map (·.name) ∧ u = ⟨b.name, c.target, c.kind⟩ := by
  simp only [unknownTargetsOf, strayFrom, List.mem_eraseDups, List.mem_flatMap, List.mem_map,
    List.mem_filter, decide_eq_true_eq]
  constructor
  · rintro ⟨b, hb, c, ⟨hc, hm⟩, rfl⟩
    exact ⟨b, hb, c, hc, hm, rfl⟩
  · rintro ⟨b, hb, c, hc, hm, rfl⟩
    exact ⟨b, hb, c, ⟨hc, hm⟩, rfl⟩

end Graph

end BehaviorPlan
