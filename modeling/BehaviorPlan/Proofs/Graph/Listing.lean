import Mathlib.Data.Finset.Card
import BehaviorPlan.Proofs.Graph.Edges

/-! # Graphs and their edges

A graph can be made of edges exactly if its nodes are distinct and both ends of every edge are among
them. It then lists the neighbours of each node in the order in which the edges name them, it has as
many edges as there are different ones, and the edges that it lists make the same graph again, up to
the order in which dependents are listed. -/
namespace BehaviorPlan.Graph

variable {nodes : List String} {edges : List (String × String)} {unknown : List UnknownTarget}
  {g : Graph}

/-- What a graph keeps of the edges of which it is made. -/
structure Keeps (nodes : List String) (edges : List (String × String)) (g : Graph) : Prop where
  nodes_eq : g.nodes = nodes
  forward_keys : g.forward.keys = nodes
  reverse_keys : g.reverse.keys = nodes
  forward : ∀ u ∈ nodes,
    g.forward.get? u = some ((edges.filter (·.1 = u)).map (·.2)).eraseDups
  reverse : ∀ v ∈ nodes,
    g.reverse.get? v = some ((edges.filter (·.2 = v)).map (·.1)).eraseDups
  edgeCount : g.edgeCount = edges.toFinset.card
  length_edges : g.edges.length = g.edgeCount

/-- Why a graph cannot be made of the edges. -/
inductive Refusal (nodes : List String) (edges : List (String × String)) : Defect → Prop where
  | repeated : ¬ nodes.Nodup → Refusal nodes edges .repeatedNodes
  | source {a b : String} : (a, b) ∈ edges → a ∉ nodes → Refusal nodes edges (.strayForwardKey a)
  | target {a b : String} : (a, b) ∈ edges → b ∉ nodes →
      Refusal nodes edges (.strayDependency b a)

/-- The graph made of the listed edges of another one differs from it at most in the order of the
dependents, and in the unknown targets. -/
structure Rebuilds (g h : Graph) : Prop where
  nodes : h.nodes = g.nodes
  forward : h.forward = g.forward
  edges : h.edges = g.edges
  reverse_keys : h.reverse.keys = g.reverse.keys
  dependents : ∀ v, (h.dependents v).Perm (g.dependents v)

section Keys

variable {key value : String × String → String}

theorem keys_eq_nodes (hn : nodes.Nodup) (he : ∀ e ∈ edges, key e ∈ nodes) :
    (nodes ++ edges.map key).eraseDups = nodes := by
  have hnone : (edges.map key).removeAll nodes = [] := by
    apply List.filter_eq_nil_iff.mpr
    intro name hname
    obtain ⟨e, hm, rfl⟩ := List.mem_map.mp hname
    simpa using he e hm
  rw [List.eraseDups_append, hnone, eraseDups_eq_self hn]
  exact List.append_nil _

theorem side_eq_ofKeys (hn : nodes.Nodup) (he : ∀ e ∈ edges, key e ∈ nodes) :
    side nodes key value edges = .ofKeys nodes (neighbours key value edges) := by
  rw [side, keys_eq_nodes hn he]

end Keys

section Count

theorem length_flatten_values (f : String → List String) (keys : List String) :
    (Table.ofKeys keys f).values.flatten.length =
      (keys.flatMap fun k => (f k).map (k, ·)).length := by
  simp [Table.ofKeys, Table.values, Function.comp_def, List.length_flatMap]

theorem nodup_edges (hg : g.Simple) : g.edges.Nodup := by
  rw [edges, List.nodup_flatMap]
  constructor
  · intro n _
    exact (hg.dependencies_nodup n).map fun a b h => (Prod.mk.inj h).2
  · refine hg.nodup.imp ?_
    intro m n hmn
    rw [Function.onFun_apply, List.disjoint_left]
    intro e hm hn
    obtain ⟨_, _, rfl⟩ := List.mem_map.mp hm
    obtain ⟨_, _, he⟩ := List.mem_map.mp hn
    exact hmn (Prod.mk.inj he).1.symm

theorem length_edges_eq_card (hg : g.Simple) (hedge : ∀ a b, g.Edge a b ↔ (a, b) ∈ edges) :
    g.edges.length = edges.toFinset.card := by
  have hset : g.edges.toFinset = edges.toFinset := by
    ext ⟨a, b⟩
    rw [List.mem_toFinset, List.mem_toFinset, mem_edges_iff hg.toConsistent, hedge]
  rw [← hset, List.toFinset_card_of_nodup (nodup_edges hg)]

end Count

section Rebuilding

theorem targetsOf_edges (hg : g.Simple) (u : String) : targetsOf g.edges u = g.dependencies u := by
  have hout : (g.edges.filter (·.1 = u)).map (·.2) =
      g.nodes.flatMap fun n => if n = u then g.dependencies n else [] :=
    map_filter_flatMap id g.dependencies g.nodes u
  have hnone : u ∉ g.nodes → g.dependencies u = [] := by
    intro hu
    apply List.eq_nil_iff_forall_not_mem.mpr
    intro b hb
    exact hu (hg.source_mem hb)
  rw [targetsOf, neighbours, hout, flatMap_ite_eq hg.nodup hnone]
  exact eraseDups_eq_self (hg.dependencies_nodup u)

theorem sourcesOf_edges_perm (hg : g.Simple) (v : String) :
    (sourcesOf g.edges v).Perm (g.dependents v) := by
  have hnodup : (sourcesOf g.edges v).Nodup := nodup_eraseDups _
  rw [List.perm_ext_iff_of_nodup hnodup (hg.dependents_nodup v)]
  intro a
  rw [mem_sourcesOf, mem_edges_iff hg.toConsistent, hg.mem_dependents_iff]

theorem exists_rebuilt (hn : nodes.Nodup) (he : ∀ e ∈ edges, e.1 ∈ nodes ∧ e.2 ∈ nodes)
    (hg : (joined nodes edges unknown).Simple) :
    ∃ h, ofEdges nodes (joined nodes edges unknown).edges = .ok h ∧
      Rebuilds (joined nodes edges unknown) h := by
  have he' : ∀ e ∈ (joined nodes edges unknown).edges, e.1 ∈ nodes ∧ e.2 ∈ nodes := by
    rintro ⟨a, b⟩ hm
    exact he _ (edge_joined.mp ((mem_edges_iff hg.toConsistent).mp hm))
  have htargets : targetsOf (joined nodes edges unknown).edges = targetsOf edges := by
    funext u
    rw [targetsOf_edges hg, dependencies_joined]
  obtain ⟨h, hh, -⟩ := @ofEdges_spec _ _ [] hn he'
  have hjoined := hh
  rw [ofEdges_eq_checked, checked_eq_ok_iff] at hjoined
  obtain ⟨-, rfl⟩ := hjoined
  have hforward : ∀ e ∈ edges, e.1 ∈ nodes := fun e hm => (he e hm).1
  have hreverse : ∀ e ∈ edges, e.2 ∈ nodes := fun e hm => (he e hm).2
  have hforward' : ∀ e ∈ (joined nodes edges unknown).edges, e.1 ∈ nodes :=
    fun e hm => (he' e hm).1
  have hreverse' : ∀ e ∈ (joined nodes edges unknown).edges, e.2 ∈ nodes :=
    fun e hm => (he' e hm).2
  refine ⟨_, hh, { nodes := rfl, forward := ?_, edges := ?_, reverse_keys := ?_, dependents := ?_ }⟩
  · calc side nodes (·.1) (·.2) (joined nodes edges unknown).edges
        = .ofKeys nodes (targetsOf (joined nodes edges unknown).edges) :=
          side_eq_ofKeys hn hforward'
      _ = .ofKeys nodes (targetsOf edges) := congrArg _ htargets
      _ = side nodes (·.1) (·.2) edges := (side_eq_ofKeys hn hforward).symm
  · simp only [Graph.edges, dependencies_joined, nodes_joined] at htargets ⊢
    rw [htargets]
  · change (side nodes _ _ _).keys = (side nodes _ _ _).keys
    rw [side_eq_ofKeys hn hreverse', side_eq_ofKeys hn hreverse, Table.keys_ofKeys,
      Table.keys_ofKeys]
  · intro v
    rw [dependents_joined]
    exact sourcesOf_edges_perm hg v

end Rebuilding

section Refused

theorem refusal_of_forwardDefect? {entry : String × List String} {d : Defect}
    (hm : entry ∈ (joined nodes edges unknown).forward.entries)
    (h : (joined nodes edges unknown).forwardDefect? entry = some d) : Refusal nodes edges d := by
  obtain ⟨hkey, hvalue⟩ := exists_pair_of_mem_ofKeys hm
  rw [forwardDefect?, nodes_joined] at h
  by_cases hnode : entry.1 ∈ nodes
  · rw [if_neg (not_not.mpr hnode)] at h
    obtain ⟨b, hb, h⟩ := List.exists_of_findSome?_eq_some h
    rw [hvalue] at hb
    have hedge : (entry.1, b) ∈ edges := mem_targetsOf.mp hb
    have hback : entry.1 ∈ (joined nodes edges unknown).dependents b := by
      rw [dependents_joined]
      exact mem_sourcesOf.mpr hedge
    by_cases hb' : b ∈ nodes
    · rw [if_neg (not_not.mpr hb'), if_neg (not_not.mpr hback)] at h
      cases h
    · rw [if_pos hb'] at h
      obtain rfl := Option.some.inj h
      exact .target hedge hb'
  · rw [if_pos hnode] at h
    obtain rfl := Option.some.inj h
    rcases List.mem_append.mp (List.mem_eraseDups.mp hkey) with hkey | hkey
    · exact absurd hkey hnode
    · obtain ⟨⟨a, b⟩, he, ha⟩ := List.mem_map.mp hkey
      subst ha
      exact .source he hnode

theorem ends_mem_of_forward (h : ∀ entry ∈ (joined nodes edges unknown).forward.entries,
    (joined nodes edges unknown).forwardDefect? entry = none) :
    ∀ e ∈ edges, e.1 ∈ nodes ∧ e.2 ∈ nodes := by
  intro e he
  have hkey : e.1 ∈ (nodes ++ edges.map (·.1)).eraseDups :=
    List.mem_eraseDups.mpr (List.mem_append_right _ (List.mem_map_of_mem he))
  have hnone := h (e.1, targetsOf edges e.1) (List.mem_map_of_mem hkey)
  rw [forwardDefect?, nodes_joined] at hnone
  split_ifs at hnone with hsource
  have htarget := List.findSome?_eq_none_iff.mp hnone e.2 (mem_targetsOf.mpr he)
  split_ifs at htarget with hnode hback
  exact ⟨hsource, hnode⟩

/-- What the checks of the reverse side could find is found on the forward side before. -/
theorem refusal_of_defect? {d : Defect}
    (h : Checked.defect? (joined nodes edges unknown) = some d) : Refusal nodes edges d := by
  rcases Option.or_eq_some_iff.mp h with h | ⟨hforward, h⟩
  · rcases Option.or_eq_some_iff.mp h with h | ⟨-, h⟩
    · by_cases hn : nodes.Nodup
      · simp [defectIf, hn] at h
      · obtain rfl : Defect.repeatedNodes = d := by simpa [defectIf, hn] using h
        exact .repeated hn
    · obtain ⟨entry, hm, h⟩ := List.exists_of_findSome?_eq_some h
      exact refusal_of_forwardDefect? hm h
  · have hends : ∀ e ∈ edges, e.1 ∈ nodes ∧ e.2 ∈ nodes :=
      ends_mem_of_forward (List.findSome?_eq_none_iff.mp (Option.or_eq_none_iff.mp hforward).2)
    obtain ⟨entry, hm, hd⟩ := List.exists_of_findSome?_eq_some h
    rw [reverseDefect?_joined hends hm] at hd
    cases hd

theorem refusal_of_error {failure : Failure}
    (h : ofEdges nodes edges unknown = .error failure) :
    ∃ d, failure = .refused d ∧ Refusal nodes edges d := by
  rw [ofEdges_eq_checked] at h
  unfold checked at h
  split at h
  · rename_i d hd
    exact ⟨d, (Except.error.inj h).symm, refusal_of_defect? hd⟩
  · cases h

end Refused

theorem keeps_joined (hn : nodes.Nodup) (he : ∀ e ∈ edges, e.1 ∈ nodes ∧ e.2 ∈ nodes)
    (hg : (joined nodes edges unknown).Simple) :
    Keeps nodes edges (joined nodes edges unknown) := by
  have hforward : (joined nodes edges unknown).forward = .ofKeys nodes (targetsOf edges) :=
    side_eq_ofKeys hn fun e hm => (he e hm).1
  have hreverse : (joined nodes edges unknown).reverse = .ofKeys nodes (sourcesOf edges) :=
    side_eq_ofKeys hn fun e hm => (he e hm).2
  have hlength : (joined nodes edges unknown).edges.length =
      (joined nodes edges unknown).edgeCount := by
    rw [edgeCount, hforward, length_flatten_values, Graph.edges]
    simp only [dependencies_joined, nodes_joined]
  refine
    { nodes_eq := rfl
      forward_keys := by rw [hforward, Table.keys_ofKeys]
      reverse_keys := by rw [hreverse, Table.keys_ofKeys]
      forward := ?_
      reverse := ?_
      edgeCount := ?_
      length_edges := hlength }
  · intro u hu
    rw [hforward, Table.get?_ofKeys, if_pos hu]
    rfl
  · intro v hv
    rw [hreverse, Table.get?_ofKeys, if_pos hv]
    rfl
  · rw [← hlength]
    exact length_edges_eq_card hg fun _ _ => edge_joined

theorem ends_of_ofEdges (h : ofEdges nodes edges unknown = .ok g) :
    nodes.Nodup ∧ ∀ e ∈ edges, e.1 ∈ nodes ∧ e.2 ∈ nodes := by
  rw [ofEdges_eq_checked, checked_eq_ok_iff] at h
  have hconsistent := consistent_of_sound h.1
  refine ⟨hconsistent.nodup, fun e he => ?_⟩
  have hedge : (joined nodes edges unknown).Edge e.1 e.2 := edge_joined.mpr he
  exact ⟨hconsistent.source_mem hedge, hconsistent.target_mem hedge⟩

theorem eq_joined_of_ofEdges (h : ofEdges nodes edges unknown = .ok g) :
    g = joined nodes edges unknown ∧ g.Simple := by
  obtain ⟨hn, he⟩ := ends_of_ofEdges h
  obtain ⟨g', hg', hsimple, -⟩ := @ofEdges_spec _ _ unknown hn he
  obtain rfl := Except.ok.inj (hg'.symm.trans h)
  rw [ofEdges_eq_checked, checked_eq_ok_iff] at h
  exact ⟨h.2, hsimple⟩

theorem keeps_of_ofEdges (h : ofEdges nodes edges unknown = .ok g) : Keeps nodes edges g := by
  obtain ⟨hn, he⟩ := ends_of_ofEdges h
  obtain ⟨rfl, hsimple⟩ := eq_joined_of_ofEdges h
  exact keeps_joined hn he hsimple

/-- A graph is made of edges exactly if they join distinct nodes, and it is refused for its nodes or
for the ends of its edges only. It keeps the edges, and those that it lists make it again. -/
theorem kept_of_ofEdges (nodes : List String) (edges : List (String × String))
    (unknownTargets : List UnknownTarget) :
    ((∃ g, ofEdges nodes edges unknownTargets = .ok g) ↔
      nodes.Nodup ∧ ∀ e ∈ edges, e.1 ∈ nodes ∧ e.2 ∈ nodes) ∧
    (∀ failure, ofEdges nodes edges unknownTargets = .error failure →
      ∃ d, failure = .refused d ∧ Refusal nodes edges d) ∧
    ∀ g, ofEdges nodes edges unknownTargets = .ok g →
      Keeps nodes edges g ∧ g.unknownTargets = unknownTargets ∧
        ∃ h, ofEdges g.nodes g.edges = .ok h ∧ Rebuilds g h := by
  refine ⟨⟨fun ⟨g, hg⟩ => ends_of_ofEdges hg, fun ⟨hn, he⟩ => ?_⟩, fun _ => refusal_of_error, ?_⟩
  · obtain ⟨g, hg, -⟩ := @ofEdges_spec _ _ unknownTargets hn he
    exact ⟨g, hg⟩
  · intro g hg
    have hkeeps := keeps_of_ofEdges hg
    obtain ⟨hn, he⟩ := ends_of_ofEdges hg
    obtain ⟨rfl, hsimple⟩ := eq_joined_of_ofEdges hg
    exact ⟨hkeeps, rfl, exists_rebuilt hn he hsimple⟩

/-- `A` depends on `B` twice over, and `B` on itself. -/
def doubledAndLoop : List (String × String) :=
  [("A", "B"), ("C", "B"), ("A", "B"), ("B", "B"), ("A", "C")]

theorem kept_doubledAndLoop :
    (∃ g, ofEdges ["A", "B", "C"] doubledAndLoop = .ok g ∧
      Keeps ["A", "B", "C"] doubledAndLoop g ∧ g.edgeCount = 4 ∧
      ∃ h, ofEdges g.nodes g.edges = .ok h ∧ Rebuilds g h) ∧
    Refusal ["A", "B"] doubledAndLoop (.strayDependency "C" "A") := by
  obtain ⟨haccepted, -, hkept⟩ := kept_of_ofEdges ["A", "B", "C"] doubledAndLoop []
  obtain ⟨-, hrefused, -⟩ := kept_of_ofEdges ["A", "B"] doubledAndLoop []
  obtain ⟨g, hg⟩ := haccepted.mpr ⟨by decide, by decide⟩
  obtain ⟨hkeeps, -, hrebuilt⟩ := hkept g hg
  have hcount : doubledAndLoop.toFinset.card = 4 := by decide
  have hstray : ofEdges ["A", "B"] doubledAndLoop =
      .error (.refused (.strayDependency "C" "A")) := by decide
  obtain ⟨d, hd, hrefusal⟩ := hrefused _ hstray
  obtain rfl := Failure.refused.inj hd
  exact ⟨⟨g, hg, hkeeps, hkeeps.edgeCount.trans hcount, hrebuilt⟩, hrefusal⟩

/-- Dependents stand in the order of the edges, so rebuilding may change it. -/
example : ((ofEdges ["A", "B", "C"] doubledAndLoop).bind fun g =>
    (ofEdges g.nodes g.edges).map fun h => (g.dependents "B", h.dependents "B")) =
      .ok (["A", "C", "B"], ["A", "B", "C"]) := by decide

end BehaviorPlan.Graph
