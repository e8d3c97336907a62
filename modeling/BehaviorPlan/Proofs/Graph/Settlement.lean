import Mathlib.Data.List.Lex
import BehaviorPlan.Proofs.Graph.Order

/-! # What the settlement of a graph is

Ordered are the behaviors from which no cycle can be reached, and the others remain in the order of
their declaration. Of all orders of the same behaviors that put dependencies first, the one that is
found is the least: at the first place where another differs, it has the behavior declared
earlier. -/
namespace BehaviorPlan.Graph

variable {g : Graph}

/-- Following dependencies leads from the behavior to one that depends on itself. -/
def ReachesCycle (g : Graph) (n : String) : Prop :=
  ∃ c, Relation.ReflTransGen g.Edge n c ∧ Relation.TransGen g.Edge c c

/-- Of two listed behaviors the one that the other depends on comes first. -/
def DependenciesFirst (g : Graph) (order : List String) : Prop :=
  ∀ a ∈ order, ∀ b ∈ order, g.Edge a b → order.idxOf b < order.idxOf a

/-- A settlement holds every node once. What remains leads to a cycle, and what is ordered stands in
the least order with dependencies first. Orders are compared like words, by the places at which their
behaviors are declared. -/
structure Settles (g : Graph) (s : Settlement) : Prop where
  perm : (s.ordered ++ s.remaining).Perm g.nodes
  mem_remaining_iff : ∀ n, n ∈ s.remaining ↔ g.ReachesCycle n
  remaining_sublist : s.remaining.Sublist g.nodes
  remaining_eq_nil_iff : s.remaining = [] ↔ g.Acyclic
  before : ∀ a ∈ s.ordered, ∀ b, g.Edge a b →
    b ∈ s.ordered ∧ s.ordered.idxOf b < s.ordered.idxOf a
  least : ∀ order, order.Perm s.ordered → g.DependenciesFirst order →
    s.ordered.map (g.nodes.idxOf ·) ≤ order.map (g.nodes.idxOf ·)

section Remaining

theorem ReachesCycle.head {a b : String} (hab : g.Edge a b) (h : g.ReachesCycle b) :
    g.ReachesCycle a := by
  obtain ⟨c, hbc, hc⟩ := h
  exact ⟨c, hbc.head hab, hc⟩

theorem ReachesCycle.mem_nodes (hg : g.Consistent) {n : String} (h : g.ReachesCycle n) :
    n ∈ g.nodes := by
  obtain ⟨c, hnc, hc⟩ := h
  obtain ⟨b, hb, _⟩ := Relation.TransGen.head'_iff.mp (hc.trans_right hnc)
  exact hg.source_mem hb

theorem IsCycle.reachesCycle {c : List String} (h : g.IsCycle c) {n : String} (hn : n ∈ c) :
    g.ReachesCycle n :=
  ⟨n, .refl, h.transGen hn⟩

theorem wellFounded_of_not_reachesCycle (hg : g.Consistent) :
    WellFounded fun b a => g.Edge a b ∧ ¬ g.ReachesCycle a := by
  have hclosed : ∀ c ∈ g.cycles, ∀ a b, Closes c a b → g.ReachesCycle a := by
    intro c hc a b hclosing
    exact (isCycle_of_mem_cycles hc).reachesCycle (List.mem_of_getLast? hclosing.1)
  exact wellFounded_of_closed hg hclosed

theorem reachesCycle_of_mem_remaining (hg : g.Consistent) (hb : g.Balanced) {n : String}
    (hn : n ∈ g.settle.remaining) : g.ReachesCycle n := by
  -- Among behaviors that lead to no cycle dependencies are well-founded; others need no step.
  induction n using (wellFounded_of_not_reachesCycle hg).induction with
  | _ n ih =>
    by_contra hnot
    obtain ⟨b, hbmem, hedge⟩ :=
      exists_edge_of_mem_remaining hb g.waitingList [] (counted_waitingList hg) n hn
    exact hnot ((ih b ⟨hedge, hnot⟩ hbmem).head hedge)

theorem idxOf_lt_of_transGen (hg : g.Consistent) (hb : g.Balanced) {a b : String}
    (ha : a ∈ g.settle.ordered) (hab : Relation.TransGen g.Edge a b) :
    b ∈ g.settle.ordered ∧ g.settle.ordered.idxOf b < g.settle.ordered.idxOf a := by
  induction hab with
  | single hab => exact before_of_mem_ordered hg hb ha hab
  | tail _ hbc ih =>
    obtain ⟨hmem, hlt⟩ := ih
    obtain ⟨hmem', hlt'⟩ := before_of_mem_ordered hg hb hmem hbc
    exact ⟨hmem', hlt'.trans hlt⟩

theorem mem_remaining_iff (hg : g.Consistent) (hb : g.Balanced) {n : String} :
    n ∈ g.settle.remaining ↔ g.ReachesCycle n := by
  constructor
  · exact reachesCycle_of_mem_remaining hg hb
  · intro h
    have hmem := perm_settle.mem_iff.mpr (h.mem_nodes hg)
    refine (List.mem_append.mp hmem).resolve_left fun hordered => ?_
    obtain ⟨c, hnc, hc⟩ := h
    have hcmem : c ∈ g.settle.ordered := by
      rcases Relation.reflTransGen_iff_eq_or_transGen.mp hnc with rfl | hnc
      · exact hordered
      · exact (idxOf_lt_of_transGen hg hb hordered hnc).1
    exact Nat.lt_irrefl _ (idxOf_lt_of_transGen hg hb hcmem hc).2

theorem remaining_sublist_settleFrom (waiting : List Waiting) :
    (g.settleFrom waiting).remaining.Sublist (waiting.map (·.node)) := by
  induction waiting using settle_induction g with
  | stop waiting hnone => rw [settleFrom_of_none hnone]
  | take waiting w hw ih =>
    rw [settleFrom_of_some hw]
    obtain ⟨pre, post, rfl, _, hnodes⟩ := exists_split g hw
    rw [hnodes] at ih
    rw [List.map_append, List.map_cons]
    exact ih.trans ((List.sublist_cons_self _ _).append_left _)

end Remaining

section Least

variable {done order : List String} {waiting : List Waiting} {w u : Waiting}

/-- Conversely to `ReadyOrder.idxOf_lt`: an order with dependencies first can be gone through. -/
theorem readyOrder_of_idxOf_lt (hn : order.Nodup)
    (h : ∀ a ∈ order, ∀ b, g.Edge a b → b ∈ done ∨ order.idxOf b < order.idxOf a) :
    g.ReadyOrder done order := by
  induction order generalizing done with
  | nil => trivial
  | cons n order ih =>
    obtain ⟨hnot, hn⟩ := List.nodup_cons.mp hn
    refine ⟨fun b hb => ?_, ih hn fun a ha b hab => ?_⟩
    · exact (h n (List.mem_cons_self ..) b hb).resolve_right (by simp)
    · have hna : n ≠ a := fun he => hnot (he ▸ ha)
      by_cases hnb : n = b
      · exact Or.inl (hnb ▸ List.mem_cons_self ..)
      · refine (h a (List.mem_cons_of_mem _ ha) b hab).imp (List.mem_cons_of_mem _) fun hlt => ?_
        rw [List.idxOf_cons_ne _ hna, List.idxOf_cons_ne _ hnb] at hlt
        exact Nat.lt_of_succ_lt_succ hlt

/-- What holds of the waiting behaviors besides: they stand in the order of their declaration, and
none of them is done. -/
structure Listed (g : Graph) (done : List String) (waiting : List Waiting) : Prop
    extends Counted g done waiting where
  sublist : (waiting.map (·.node)).Sublist g.nodes
  not_mem : ∀ n ∈ done, n ∉ waiting.map (·.node)

theorem Listed.step (hb : g.Balanced) (h : g.Listed done waiting)
    (hw : waiting.find? Waiting.isReady = some w) :
    g.Listed (w.node :: done) (g.afterTaking waiting w) := by
  obtain ⟨pre, post, rfl, _, hnodes⟩ := exists_split g hw
  have hnodup := h.nodup
  have hsublist := h.sublist
  rw [List.map_append, List.map_cons] at hnodup hsublist
  have hfewer : (pre.map (·.node) ++ post.map (·.node)).Sublist
      (pre.map (·.node) ++ w.node :: post.map (·.node)) :=
    (List.sublist_cons_self _ _).append_left _
  refine ⟨h.toCounted.step hb hw, hnodes ▸ hfewer.trans hsublist, fun n hn => ?_⟩
  rw [hnodes]
  rcases List.mem_cons.mp hn with rfl | hn
  · exact (List.nodup_cons.mp (List.nodup_middle.mp hnodup)).1
  · have hnot := h.not_mem n hn
    rw [List.map_append, List.map_cons] at hnot
    exact fun hm => hnot (hfewer.subset hm)

theorem Listed.idxOf_le (hg : g.Consistent) (h : g.Listed done waiting)
    (hw : waiting.find? Waiting.isReady = some w) (hu : u ∈ waiting) (hready : u.isReady = true) :
    w = u ∨ g.nodes.idxOf w.node < g.nodes.idxOf u.node := by
  have hwaiting := List.pairwise_map.mp ((pairwise_idxOf_of_nodup hg.nodup).sublist h.sublist)
  obtain ⟨_, pre, post, rfl, hpre⟩ := List.find?_eq_some_iff_append.mp hw
  rcases List.mem_append.mp hu with hu | hu
  · exact absurd hready (by simpa using hpre u hu)
  · rcases List.mem_cons.mp hu with rfl | hu
    · exact Or.inl rfl
    · exact Or.inr ((List.pairwise_cons.mp (List.pairwise_append.mp hwaiting).2.1).1 u hu)

theorem Listed.isReady (h : g.Listed done waiting) (hu : u ∈ waiting)
    (hdone : ∀ b, g.Edge u.node b → b ∈ done) : u.isReady = true := by
  have hnone : (g.dependencies u.node).countP (· ∈ waiting.map (·.node)) = 0 :=
    List.countP_eq_zero.mpr fun b hb => by simpa using h.not_mem b (hdone b hb)
  simp [Waiting.isReady, (h.count_eq u hu).trans hnone]

/-- No order that can be gone through is less. The induction follows the run: the first behavior of
another order is ready too, so the one that is taken is the same or declared earlier. -/
theorem ordered_settleFrom_le (hg : g.Consistent) (hb : g.Balanced) (waiting : List Waiting)
    (done order : List String) (h : g.Listed done waiting)
    (hperm : order.Perm (g.settleFrom waiting).ordered) (hready : g.ReadyOrder done order) :
    (g.settleFrom waiting).ordered.map (g.nodes.idxOf ·) ≤ order.map (g.nodes.idxOf ·) := by
  induction waiting using settle_induction g generalizing done order with
  | stop waiting hnone =>
    rw [settleFrom_of_none hnone] at hperm ⊢
    rw [List.perm_nil.mp hperm]
  | take waiting w hw ih =>
    rw [settleFrom_of_some hw] at hperm ⊢
    match order, hperm, hready with
    | [], hperm, _ => simp at hperm
    | x :: order, hperm, ⟨hdone, hready⟩ =>
      have hx : x ∈ waiting.map (·.node) := by
        have hmem : x ∈ (g.settleFrom waiting).ordered := by
          rw [settleFrom_of_some hw]
          exact hperm.subset (List.mem_cons_self ..)
        exact (perm_settleFrom waiting).subset (List.mem_append_left _ hmem)
      obtain ⟨u, hu, rfl⟩ := List.mem_map.mp hx
      rw [List.map_cons, List.map_cons]
      rcases h.idxOf_le hg hw hu (h.isReady hu hdone) with rfl | hlt
      · exact List.cons_le_cons _ (ih _ order (h.step hb hw) (hperm.cons_inv) hready)
      · exact le_of_lt (List.Lex.rel hlt)

theorem listed_waitingList (hg : g.Consistent) : g.Listed [] g.waitingList where
  toCounted := counted_waitingList hg
  sublist := by simp [waitingList, Function.comp_def]
  not_mem := by simp

end Least

theorem settles_settle (hg : g.Consistent) (hb : g.Balanced) : g.Settles g.settle where
  perm := perm_settle
  mem_remaining_iff _ := mem_remaining_iff hg hb
  remaining_sublist := by
    simpa [settle, waitingList, Function.comp_def] using remaining_sublist_settleFrom g.waitingList
  remaining_eq_nil_iff := settle_remaining_eq_nil_iff hg hb
  before a ha b hab := before_of_mem_ordered hg hb ha hab
  least order hperm hfirst := by
    refine ordered_settleFrom_le hg hb _ _ _ (listed_waitingList hg) hperm
      (readyOrder_of_idxOf_lt (hperm.nodup_iff.mpr (nodup_ordered hg)) fun a ha b hab => Or.inr ?_)
    have hbmem := (before_of_mem_ordered hg hb (hperm.mem_iff.mp ha) hab).1
    exact hfirst a ha b (hperm.mem_iff.mpr hbmem) hab

/-- Every graph that is made of edges between distinct nodes is settled, also with cycles and with
behaviors that depend on themselves, and the startup order fails with just the behaviors that
remain. -/
theorem settles_of_ofEdges (nodes : List String) (edges : List (String × String))
    (unknownTargets : List UnknownTarget) (hn : nodes.Nodup)
    (he : ∀ e ∈ edges, e.1 ∈ nodes ∧ e.2 ∈ nodes) :
    ∃ g, ofEdges nodes edges unknownTargets = .ok g ∧ g.nodes = nodes ∧
      (∀ a b, g.Edge a b ↔ (a, b) ∈ edges) ∧ g.Settles g.settle ∧
      (g.Acyclic → g.startupOrder = .ok g.settle.ordered) ∧
      (¬ g.Acyclic → g.startupOrder = .error (.cyclic g.settle.remaining)) := by
  obtain ⟨g, hg, hsimple, hnodes, hedge, -⟩ := @ofEdges_spec _ _ unknownTargets hn he
  have hsettles := settles_settle hsimple.toConsistent hsimple.balanced
  refine ⟨g, hg, hnodes, hedge, hsettles, fun hacyclic => ?_, fun hcyclic => ?_⟩
  · rw [startupOrder_eq hsimple.toConsistent, if_pos (hsettles.remaining_eq_nil_iff.mpr hacyclic)]
  · rw [startupOrder_eq hsimple.toConsistent,
      if_neg (mt hsettles.remaining_eq_nil_iff.mp hcyclic)]

/-- `A` and `E` depend on `B`, and `D` on `C`, which depends on itself. -/
def loopAndFan : List (String × String) :=
  [("E", "B"), ("A", "B"), ("C", "C"), ("D", "C")]

theorem settles_loopAndFan : ∃ g, ofEdges ["A", "B", "C", "D", "E"] loopAndFan = .ok g ∧
    g.settle = ⟨["B", "A", "E"], ["C", "D"]⟩ ∧ g.Settles g.settle ∧
    g.startupOrder = .error (.cyclic ["C", "D"]) := by
  obtain ⟨g, hg, -, -, hsettles, -, hcyclic⟩ :=
    settles_of_ofEdges ["A", "B", "C", "D", "E"] loopAndFan [] (by decide) (by decide)
  have hjoined : ofEdges ["A", "B", "C", "D", "E"] loopAndFan =
      .ok (joined ["A", "B", "C", "D", "E"] loopAndFan []) := by decide
  obtain rfl := Except.ok.inj (hjoined.symm.trans hg)
  have hsettle : (joined ["A", "B", "C", "D", "E"] loopAndFan []).settle =
      ⟨["B", "A", "E"], ["C", "D"]⟩ := by decide +kernel
  refine ⟨_, hg, hsettle, hsettles, ?_⟩
  rw [hcyclic (mt hsettles.remaining_eq_nil_iff.mpr (by simp [hsettle])), hsettle]

end BehaviorPlan.Graph
