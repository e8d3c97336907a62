import BehaviorPlan.Proofs.Graph.Order

/-! # The graph of behaviors

Behaviors of distinct names have a graph: each depends on the known ones among those that it calls
directly, and calls of unknown ones are noted where they first occur. Orders and cycles depend on
nothing else, so behaviors that call the same ones directly are ordered alike. -/
namespace BehaviorPlan

def Behavior.directTargets (b : Behavior) : List String :=
  (b.calls.filter (·.kind = .direct)).map (·.target)

/-- The behaviors differ at most in their members, in events that are handled or sent, and in where
their calls come from. -/
structure SameDirectCalls (b c : Behavior) : Prop where
  name : b.name = c.name
  directTargets : b.directTargets = c.directTargets

namespace Graph

variable {behaviors others : List Behavior} {g h : Graph}

/-- All calls of the behaviors, as they are noted if their targets are unknown. -/
def notedCalls (behaviors : List Behavior) : List UnknownTarget :=
  behaviors.flatMap fun b => b.calls.map fun c => ⟨b.name, c.target, c.kind⟩

/-- What the graph of the behaviors says of them. -/
structure Reflects (behaviors : List Behavior) (g : Graph) : Prop where
  nodes : g.nodes = behaviors.map (·.name)
  dependencies : ∀ b ∈ behaviors,
    g.dependencies b.name = b.directDependencies.filter (· ∈ behaviors.map (·.name))
  dependents : ∀ v ∈ behaviors.map (·.name),
    g.dependents v = (behaviors.filter (v ∈ ·.directDependencies)).map (·.name)
  mem_unknownTargets : ∀ u, u ∈ g.unknownTargets ↔
    ∃ b ∈ behaviors, ∃ c ∈ b.calls,
      c.target ∉ behaviors.map (·.name) ∧ u = ⟨b.name, c.target, c.kind⟩
  unknownTargets_nodup : g.unknownTargets.Nodup
  unknownTargets_order : g.unknownTargets.Pairwise fun s t =>
    (notedCalls behaviors).idxOf s < (notedCalls behaviors).idxOf t

structure SameOrdering (g h : Graph) : Prop where
  nodes : g.nodes = h.nodes
  edges : g.edges = h.edges
  cycles : g.cycles = h.cycles
  settle : g.settle = h.settle

section Edges

theorem edgesFrom_eq (names : List String) (b : Behavior) :
    edgesFrom names b.name b.calls =
      (b.directTargets.filter (· ∈ names)).map fun target => (b.name, target) := by
  rw [edgesFrom, Behavior.directTargets, List.filter_map, List.map_map, List.filter_filter]
  simp [Function.comp_def]

theorem edgesOf_eq (behaviors : List Behavior) :
    edgesOf behaviors = behaviors.flatMap fun b =>
      (b.directTargets.filter (· ∈ behaviors.map (·.name))).map fun target => (b.name, target) := by
  simp only [edgesOf, edgesFrom_eq]

/-- The edges out of a behavior are its own direct calls, since no other has its name. -/
theorem targetsOf_edgesOf (hn : (behaviors.map (·.name)).Nodup) {b : Behavior}
    (hb : b ∈ behaviors) :
    targetsOf (edgesOf behaviors) b.name =
      b.directDependencies.filter (· ∈ behaviors.map (·.name)) := by
  rw [targetsOf, neighbours, edgesOf_eq, map_filter_flatMap, flatMap_ite_of_mem (·.name) hn hb,
    eraseDups_filter]
  rfl

theorem mem_directDependencies {b : Behavior} {v : String} :
    v ∈ b.directDependencies ↔ v ∈ b.directTargets :=
  List.mem_eraseDups

theorem map_filter_edgesOf {v : String} (hv : v ∈ behaviors.map (·.name)) :
    ((edgesOf behaviors).filter (·.2 = v)).map (·.1) =
      behaviors.flatMap fun b => (b.directTargets.filter (· = v)).map fun _ => b.name := by
  rw [edgesOf_eq, List.filter_flatMap, List.map_flatMap]
  congr 1
  funext b
  rw [List.filter_map, List.map_map, List.filter_filter]
  congr 1
  apply List.filter_congr
  intro target _
  by_cases ht : target = v
  · simpa [ht] using List.mem_map.mp hv
  · simp [ht]

theorem sourcesOf_edgesOf (hn : (behaviors.map (·.name)).Nodup) {v : String}
    (hv : v ∈ behaviors.map (·.name)) :
    sourcesOf (edgesOf behaviors) v =
      (behaviors.filter (v ∈ ·.directDependencies)).map (·.name) := by
  have hothers : (behaviors.flatMap fun b => (b.directTargets.filter (· = v)).map fun _ => b.name) =
      (behaviors.filter (v ∈ ·.directDependencies)).flatMap fun b =>
        (b.directTargets.filter (· = v)).map fun _ => b.name := by
    refine (flatMap_filter_of_forall fun b _ hb => ?_).symm
    rw [List.map_eq_nil_iff, List.filter_eq_nil_iff]
    intro target ht htarget
    rw [decide_eq_true_eq] at hb htarget
    exact hb (mem_directDependencies.mpr (htarget ▸ ht))
  have hcalls : ∀ b ∈ behaviors.filter (v ∈ ·.directDependencies),
      b.directTargets.filter (· = v) ≠ [] := by
    intro b hb
    have hcalled : v ∈ b.directTargets := by
      simpa [mem_directDependencies] using (List.mem_filter.mp hb).2
    exact List.ne_nil_of_mem (List.mem_filter.mpr ⟨hcalled, by simp⟩)
  rw [sourcesOf, neighbours, map_filter_edgesOf hv, hothers]
  exact eraseDups_flatMap_map_const (hn.sublist (List.filter_sublist.map _)) hcalls

end Edges

section Unknown

theorem unknownTargetsOf_eq (behaviors : List Behavior) :
    unknownTargetsOf behaviors =
      (notedCalls behaviors).eraseDups.filter (·.target ∉ behaviors.map (·.name)) := by
  have hstray : (behaviors.flatMap fun b => strayFrom (behaviors.map (·.name)) b.name b.calls) =
      (notedCalls behaviors).filter (·.target ∉ behaviors.map (·.name)) := by
    rw [notedCalls, List.filter_flatMap]
    congr 1
    funext b
    rw [strayFrom, List.filter_map]
    rfl
  rw [unknownTargetsOf, hstray, eraseDups_filter]

theorem unknownTargetsOf_order (behaviors : List Behavior) :
    (unknownTargetsOf behaviors).Pairwise fun s t =>
      (notedCalls behaviors).idxOf s < (notedCalls behaviors).idxOf t := by
  rw [unknownTargetsOf_eq]
  exact (pairwise_idxOf_eraseDups _).sublist List.filter_sublist

end Unknown

section Congruence

/-- The search reads dependencies only. -/
theorem cyclesFrom_congr (hd : g.dependencies = h.dependencies) (unseen : List String)
    (path : List Frame) : g.cyclesFrom unseen path = h.cyclesFrom unseen path := by
  have hframe : ∀ node, g.frame node = h.frame node := fun node => by rw [frame, frame, hd]
  induction unseen, path using search_induction g with
  | stop => rw [cyclesFrom, cyclesFrom]
  | start root unseen ih => rw [cyclesFrom, ih, hframe, cyclesFrom]
  | leave unseen node path ih => rw [cyclesFrom, ih, cyclesFrom]
  | close unseen node next pending path hnext ih =>
    rw [cyclesFrom_cons, cyclesFrom_cons, if_pos hnext, if_pos hnext, ih]
  | enter unseen node next pending path hnot hnext ih =>
    rw [cyclesFrom_cons, cyclesFrom_cons, if_neg hnot, if_neg hnot, if_pos hnext, if_pos hnext, ih,
      hframe]
  | skip unseen node next pending path hnot hseen ih =>
    rw [cyclesFrom_cons, cyclesFrom_cons, if_neg hnot, if_neg hnot, if_neg hseen, if_neg hseen, ih]

/-- Settling reads dependents only; dependencies are counted before. -/
theorem settleFrom_congr (hd : g.dependents = h.dependents) (waiting : List Waiting) :
    g.settleFrom waiting = h.settleFrom waiting := by
  induction waiting using settle_induction g with
  | stop waiting hnone => rw [settleFrom_of_none hnone, settleFrom_of_none hnone]
  | take waiting w hw ih =>
    have hafter : g.afterTaking waiting w = h.afterTaking waiting w := by
      rw [afterTaking, afterTaking, hd]
    rw [settleFrom_of_some hw, settleFrom_of_some hw, ih, hafter]

theorem sameOrdering_of_neighbours (hnodes : g.nodes = h.nodes)
    (hforward : g.dependencies = h.dependencies) (hreverse : g.dependents = h.dependents) :
    SameOrdering g h where
  nodes := hnodes
  edges := by rw [edges, edges, hnodes, hforward]
  cycles := by rw [cycles, cycles, hnodes, cyclesFrom_congr hforward]
  settle := by
    have hwaiting : g.waitingList = h.waitingList := by
      rw [waitingList, waitingList, hnodes, hforward]
    rw [settle, settle, hwaiting, settleFrom_congr hreverse]

end Congruence

section SameDirectCalls

theorem names_congr (hs : List.Forall₂ SameDirectCalls behaviors others) :
    behaviors.map (·.name) = others.map (·.name) := by
  induction hs with
  | nil => rfl
  | cons hb _ ih => rw [List.map_cons, List.map_cons, hb.name, ih]

theorem edgesOf_congr (hs : List.Forall₂ SameDirectCalls behaviors others) :
    edgesOf behaviors = edgesOf others := by
  have hedges : ∀ names : List String,
      (behaviors.flatMap fun b => edgesFrom names b.name b.calls) =
        others.flatMap fun b => edgesFrom names b.name b.calls := by
    intro names
    induction hs with
    | nil => rfl
    | cons hb _ ih =>
      rw [List.flatMap_cons, List.flatMap_cons, ih, edgesFrom_eq, edgesFrom_eq, hb.name,
        hb.directTargets]
  rw [edgesOf, edgesOf, ← names_congr hs]
  exact hedges _

end SameDirectCalls

theorem ofBehaviors_of_repeated (h : ¬ (behaviors.map (·.name)).Nodup) :
    ofBehaviors behaviors = .error (.refused .repeatedNodes) := by
  have hdefect : Checked.defect? (joined (behaviors.map (·.name)) (edgesOf behaviors)
      (unknownTargetsOf behaviors)) = some .repeatedNodes := by
    simp only [Checked.defect?, defectIf, nodes_joined]
    simp [h]
  rw [ofBehaviors_eq_checked, checked, hdefect]

theorem ofBehaviors_eq_joined (hn : (behaviors.map (·.name)).Nodup) :
    ofBehaviors behaviors = .ok
      (joined (behaviors.map (·.name)) (edgesOf behaviors) (unknownTargetsOf behaviors)) := by
  obtain ⟨g, hg, -⟩ := ofBehaviors_spec hn
  have hchecked := hg
  rw [ofBehaviors_eq_checked, checked_eq_ok_iff] at hchecked
  rw [hg, hchecked.2]

theorem reflects_joined (hn : (behaviors.map (·.name)).Nodup) :
    Reflects behaviors
      (joined (behaviors.map (·.name)) (edgesOf behaviors) (unknownTargetsOf behaviors)) where
  nodes := rfl
  dependencies b hb := (dependencies_joined b.name).trans (targetsOf_edgesOf hn hb)
  dependents v hv := (dependents_joined v).trans (sourcesOf_edgesOf hn hv)
  mem_unknownTargets _ := mem_unknownTargetsOf
  unknownTargets_nodup := nodup_eraseDups _
  unknownTargets_order := unknownTargetsOf_order behaviors

/-- Behaviors have a graph exactly if no two share a name. It reflects them, and whatever has the
same direct calls is ordered alike. -/
theorem reflected_of_ofBehaviors (behaviors : List Behavior) :
    (¬ (behaviors.map (·.name)).Nodup →
      ofBehaviors behaviors = .error (.refused .repeatedNodes)) ∧
    ((behaviors.map (·.name)).Nodup → ∃ g, ofBehaviors behaviors = .ok g ∧ Reflects behaviors g ∧
      ∀ others, List.Forall₂ SameDirectCalls behaviors others →
        ∃ h, ofBehaviors others = .ok h ∧ SameOrdering g h) := by
  refine ⟨ofBehaviors_of_repeated, fun hn => ?_⟩
  refine ⟨_, ofBehaviors_eq_joined hn, reflects_joined hn, fun others hs => ?_⟩
  have hnames := names_congr hs
  refine ⟨_, ofBehaviors_eq_joined (hnames ▸ hn), sameOrdering_of_neighbours hnames ?_ ?_⟩
  · funext n
    rw [dependencies_joined, dependencies_joined, edgesOf_congr hs]
  · funext n
    rw [dependents_joined, dependents_joined, edgesOf_congr hs]

/-- `A` calls `B` twice and an unknown behavior, and `B` sends an event to `A`. -/
def callerAndSender : List Behavior :=
  [{ name := "A"
     calls := [⟨"B", .direct, .declared, none⟩, ⟨"Ghost", .direct, .declared, none⟩,
       ⟨"B", .direct, .inferred, some "ring"⟩] },
   { name := "B", calls := [⟨"A", .eventSend, .declared, none⟩] }]

/-- The same direct calls in another order of origins; `B` handles an event and sends none. -/
def callerAndListener : List Behavior :=
  [{ name := "A"
     calls := [⟨"B", .direct, .inferred, some "ring"⟩, ⟨"Ghost", .direct, .declared, none⟩,
       ⟨"B", .direct, .declared, none⟩]
     autoSync := true },
   { name := "B", events := ["Interact"] }]

theorem reflected_callerAndSender :
    (∃ g, ofBehaviors callerAndSender = .ok g ∧ Reflects callerAndSender g ∧
      g.dependencies "A" = ["B"] ∧ g.dependents "B" = ["A"] ∧
      ∃ h, ofBehaviors callerAndListener = .ok h ∧ SameOrdering g h) ∧
    ofBehaviors (callerAndSender ++ callerAndListener) = .error (.refused .repeatedNodes) := by
  have hsame : List.Forall₂ SameDirectCalls callerAndSender callerAndListener :=
    .cons ⟨rfl, by decide⟩ (.cons ⟨rfl, by decide⟩ .nil)
  obtain ⟨-, hreflected⟩ := reflected_of_ofBehaviors callerAndSender
  obtain ⟨hrepeated, -⟩ := reflected_of_ofBehaviors (callerAndSender ++ callerAndListener)
  obtain ⟨g, hg, hr, hothers⟩ := hreflected (by decide)
  have hforward : g.dependencies "A" = ["B"] :=
    (hr.dependencies _ (List.mem_cons_self ..)).trans (by decide)
  have hreverse : g.dependents "B" = ["A"] := (hr.dependents "B" (by decide)).trans (by decide)
  exact ⟨⟨g, hg, hr, hforward, hreverse, hothers _ hsame⟩, hrepeated (by decide)⟩

end Graph

end BehaviorPlan
