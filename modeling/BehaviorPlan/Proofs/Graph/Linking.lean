import BehaviorPlan.Graph.Basic
import BehaviorPlan.Proofs.Table

/-! # Entering edges

Entering an edge keeps the two sides of a graph in step. After all edges, each side lists the
neighbours of every node in the order in which they were first met. A survey of calls sorts them
likewise: direct calls of known behaviors become edges, and a call of an unknown one is kept where
it first occurs. -/
namespace BehaviorPlan.Graph

section Side

variable {nodes : List String} {edges : List (String × String)} {e : String × String}
  {key value : String × String → String}

/-- What the edges with the node at one end have at the other end, each once. -/
def neighbours (key value : String × String → String) (edges : List (String × String))
    (node : String) : List String :=
  ((edges.filter (key · = node)).map value).eraseDups

def targetsOf : List (String × String) → String → List String :=
  neighbours (·.1) (·.2)

def sourcesOf : List (String × String) → String → List String :=
  neighbours (·.2) (·.1)

theorem map_filter_flatMap {α : Type} (source : α → String) (targets : α → List String)
    (l : List α) (node : String) :
    ((l.flatMap fun a => (targets a).map fun target => (source a, target)).filter
        (·.1 = node)).map (·.2) =
      l.flatMap fun a => if source a = node then targets a else [] := by
  rw [List.filter_flatMap, List.map_flatMap]
  congr 1
  funext a
  by_cases ha : source a = node
  · simp [ha, List.filter_map, Function.comp_def]
  · simp [ha, List.filter_map, Function.comp_def]

/-- One side of the graph of the edges. -/
def side (nodes : List String) (key value : String × String → String)
    (edges : List (String × String)) : Table (List String) :=
  .ofKeys (nodes ++ edges.map key).eraseDups (neighbours key value edges)

theorem mem_targetsOf {a b : String} : b ∈ targetsOf edges a ↔ (a, b) ∈ edges := by
  simp [targetsOf, neighbours]

theorem mem_sourcesOf {a b : String} : a ∈ sourcesOf edges b ↔ (a, b) ∈ edges := by
  simp [sourcesOf, neighbours]

theorem neighbours_eq_nil {node : String} (h : node ∉ (nodes ++ edges.map key).eraseDups) :
    neighbours key value edges node = [] := by
  have hfilter : edges.filter (key · = node) = [] := by
    apply List.filter_eq_nil_iff.mpr
    intro e he hnode
    rw [decide_eq_true_eq] at hnode
    apply h
    rw [List.mem_eraseDups, ← hnode]
    exact List.mem_append_right _ (List.mem_map_of_mem he)
  rw [neighbours, hfilter]
  rfl

theorem get?_side (node : String) :
    ((side nodes key value edges).get? node).getD [] = neighbours key value edges node := by
  rw [side, Table.get?_ofKeys]
  by_cases hnode : node ∈ (nodes ++ edges.map key).eraseDups
  · rw [if_pos hnode, Option.getD_some]
  · rw [if_neg hnode, Option.getD_none, neighbours_eq_nil hnode]

theorem neighbours_concat (node : String) : neighbours key value (edges ++ [e]) node =
    if key e = node ∧ value e ∉ neighbours key value edges node
      then neighbours key value edges node ++ [value e]
      else neighbours key value edges node := by
  unfold neighbours
  rw [List.filter_append, List.map_append]
  by_cases hkey : key e = node
  · rw [List.filter_cons_of_pos (by simpa using hkey), List.filter_nil, List.map_singleton,
      eraseDups_concat]
    simp only [List.mem_eraseDups, hkey, true_and]
    rw [ite_not]
  · rw [List.filter_cons_of_neg (by simpa using hkey), List.filter_nil, List.map_nil,
      List.append_nil, if_neg fun h => hkey h.1]

theorem keys_concat : (nodes ++ (edges ++ [e]).map key).eraseDups =
    if key e ∈ (nodes ++ edges.map key).eraseDups then (nodes ++ edges.map key).eraseDups
      else (nodes ++ edges.map key).eraseDups ++ [key e] := by
  rw [List.map_append, List.map_singleton, ← List.append_assoc, eraseDups_concat]
  simp only [List.mem_eraseDups]

theorem side_concat_of_mem (h : value e ∈ neighbours key value edges (key e)) :
    side nodes key value (edges ++ [e]) = side nodes key value edges := by
  have hkey : key e ∈ (nodes ++ edges.map key).eraseDups := by
    by_contra hnot
    rw [neighbours_eq_nil hnot] at h
    exact List.not_mem_nil h
  have hvalues : neighbours key value (edges ++ [e]) = neighbours key value edges := by
    funext node
    rw [neighbours_concat, if_neg]
    rintro ⟨rfl, hnot⟩
    exact hnot h
  rw [side, keys_concat, if_pos hkey, hvalues, side]

theorem side_concat_of_not_mem (h : value e ∉ neighbours key value edges (key e)) :
    side nodes key value (edges ++ [e]) = (side nodes key value edges).push (key e) (value e) := by
  have hvalues : neighbours key value (edges ++ [e]) = fun node =>
      if node = key e then neighbours key value edges (key e) ++ [value e]
        else neighbours key value edges node := by
    funext node
    rw [neighbours_concat]
    by_cases hnode : node = key e
    · subst hnode
      rw [if_pos ⟨rfl, h⟩, if_pos rfl]
    · rw [if_neg fun hboth => hnode hboth.1.symm, if_neg hnode]
  rw [side, side, Table.push_ofKeys neighbours_eq_nil, keys_concat, hvalues]

end Side

/-- The graph that is made of the edges. -/
def joined (nodes : List String) (edges : List (String × String))
    (unknownTargets : List UnknownTarget) : Graph where
  nodes := nodes
  forward := side nodes (·.1) (·.2) edges
  reverse := side nodes (·.2) (·.1) edges
  unknownTargets := unknownTargets

namespace Sides

def of (nodes : List String) (edges : List (String × String)) : Sides :=
  ⟨side nodes (·.1) (·.2) edges, side nodes (·.2) (·.1) edges⟩

/-- An edge is on the one side exactly if it is on the other, so it is enough to look at one. -/
theorem link_of (nodes : List String) (edges : List (String × String)) (e : String × String) :
    (of nodes edges).link e = of nodes (edges ++ [e]) := by
  have hforward : ((of nodes edges).forward.get? e.1).getD [] = targetsOf edges e.1 :=
    get?_side e.1
  rw [link, hforward]
  by_cases he : e ∈ edges
  · have htarget : e.2 ∈ targetsOf edges e.1 := mem_targetsOf.mpr he
    have hsource : e.1 ∈ sourcesOf edges e.2 := mem_sourcesOf.mpr he
    rw [if_pos htarget, of, of, side_concat_of_mem htarget, side_concat_of_mem hsource]
  · have htarget : e.2 ∉ targetsOf edges e.1 := fun h => he (mem_targetsOf.mp h)
    have hsource : e.1 ∉ sourcesOf edges e.2 := fun h => he (mem_sourcesOf.mp h)
    rw [if_neg htarget, of, of, side_concat_of_not_mem htarget, side_concat_of_not_mem hsource]

theorem bare_eq_of (nodes : List String) : bare nodes = of nodes [] := by
  simp only [bare, of, side, List.map_nil, List.append_nil]
  rfl

/-- The induction is on the edges from the last one back, so that what is known of the sides is what
the edges before have made of them. -/
theorem foldl_link (nodes : List String) (edges : List (String × String)) :
    edges.foldl link (bare nodes) = of nodes edges := by
  induction edges using List.reverseRecOn with
  | nil => exact bare_eq_of nodes
  | append_singleton edges e ih =>
    rw [List.foldl_append, List.foldl_cons, List.foldl_nil, ih, link_of]

end Sides

theorem ofEdges_eq_checked (nodes : List String) (edges : List (String × String))
    (unknownTargets : List UnknownTarget) :
    ofEdges nodes edges unknownTargets = checked (joined nodes edges unknownTargets) := by
  rw [ofEdges, Sides.foldl_link]
  rfl

section Survey

def edgesFrom (names : List String) (caller : String) (calls : List Call) :
    List (String × String) :=
  (calls.filter fun c => c.target ∈ names ∧ c.kind = .direct).map fun c => (caller, c.target)

def strayFrom (names : List String) (caller : String) (calls : List Call) : List UnknownTarget :=
  (calls.filter (·.target ∉ names)).map fun c => ⟨caller, c.target, c.kind⟩

/-- Direct calls between the given behaviors. -/
def edgesOf (behaviors : List Behavior) : List (String × String) :=
  behaviors.flatMap fun b => edgesFrom (behaviors.map (·.name)) b.name b.calls

/-- Calls to behaviors that are not among the given ones, each once. -/
def unknownTargetsOf (behaviors : List Behavior) : List UnknownTarget :=
  (behaviors.flatMap fun b => strayFrom (behaviors.map (·.name)) b.name b.calls).eraseDups

namespace Survey

variable {names : List String} {caller : String}

theorem note_eq (edges : List (String × String)) (stray : List UnknownTarget) (c : Call) :
    note names caller ⟨edges, stray.eraseDups⟩ c =
      ⟨edges ++ edgesFrom names caller [c], (stray ++ strayFrom names caller [c]).eraseDups⟩ := by
  unfold note
  by_cases hknown : c.target ∈ names
  · have hstray : strayFrom names caller [c] = [] := by simp [strayFrom, hknown]
    rw [if_pos hknown, hstray, List.append_nil]
    by_cases hkind : c.kind = .direct
    · simp [edgesFrom, hknown, hkind]
    · simp [edgesFrom, hkind]
  · have hedges : edgesFrom names caller [c] = [] := by simp [edgesFrom, hknown]
    have hstray : strayFrom names caller [c] = [⟨caller, c.target, c.kind⟩] := by
      simp [strayFrom, hknown]
    rw [if_neg hknown, hedges, List.append_nil, hstray, eraseDups_concat]
    simp only [List.mem_eraseDups]
    split
    · rfl
    · rfl

theorem foldl_note (calls : List Call) (edges : List (String × String))
    (stray : List UnknownTarget) :
    calls.foldl (note names caller) ⟨edges, stray.eraseDups⟩ =
      ⟨edges ++ edgesFrom names caller calls,
        (stray ++ strayFrom names caller calls).eraseDups⟩ := by
  induction calls generalizing edges stray with
  | nil => simp [edgesFrom, strayFrom]
  | cons c calls ih =>
    have hedges : edgesFrom names caller (c :: calls) =
        edgesFrom names caller [c] ++ edgesFrom names caller calls := by
      rw [edgesFrom, ← List.singleton_append, List.filter_append, List.map_append]
      rfl
    have hstray : strayFrom names caller (c :: calls) =
        strayFrom names caller [c] ++ strayFrom names caller calls := by
      rw [strayFrom, ← List.singleton_append, List.filter_append, List.map_append]
      rfl
    rw [List.foldl_cons, note_eq, ih, hedges, hstray, List.append_assoc, List.append_assoc]

theorem foldl_calls (behaviors : List Behavior) (edges : List (String × String))
    (stray : List UnknownTarget) :
    behaviors.foldl (fun s b => b.calls.foldl (note names b.name) s) ⟨edges, stray.eraseDups⟩ =
      ⟨edges ++ behaviors.flatMap fun b => edgesFrom names b.name b.calls,
        (stray ++ behaviors.flatMap fun b => strayFrom names b.name b.calls).eraseDups⟩ := by
  induction behaviors generalizing edges stray with
  | nil => simp
  | cons b behaviors ih =>
    rw [List.foldl_cons, foldl_note, ih, List.flatMap_cons, List.flatMap_cons, List.append_assoc,
      List.append_assoc]

theorem ofBehaviors_eq (behaviors : List Behavior) :
    ofBehaviors behaviors = ⟨edgesOf behaviors, unknownTargetsOf behaviors⟩ :=
  foldl_calls behaviors [] []

end Survey

theorem ofBehaviors_eq_checked (behaviors : List Behavior) :
    ofBehaviors behaviors = checked
      (joined (behaviors.map (·.name)) (edgesOf behaviors) (unknownTargetsOf behaviors)) := by
  rw [ofBehaviors, Survey.ofBehaviors_eq]
  exact ofEdges_eq_checked _ _ _

end Survey

end BehaviorPlan.Graph
