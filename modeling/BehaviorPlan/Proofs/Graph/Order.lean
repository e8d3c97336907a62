import BehaviorPlan.Graph.Order
import BehaviorPlan.Proofs.Graph.Cycles

/-! # The startup order of a graph

A startup order holds every behavior once and puts dependencies first. Taking ready behaviors one
after the other ends either with such an order or with behaviors that all depend on one another's
rest, so an order is found exactly if the graph has no cycles. -/
namespace BehaviorPlan.Graph

variable {g : Graph}

/-- Every behavior once, each one after those it depends on. -/
structure IsStartupOrder (g : Graph) (order : List String) : Prop where
  perm : order.Perm g.nodes
  before : ∀ {a b}, g.Edge a b → order.idxOf b < order.idxOf a

/-- When the turn of a listed behavior comes, all that it depends on is done. -/
def ReadyOrder (g : Graph) : List String → List String → Prop
  | _, [] => True
  | done, n :: order => (∀ b, g.Edge n b → b ∈ done) ∧ ReadyOrder g (n :: done) order

theorem ReadyOrder.idxOf_lt {done order : List String} (h : ReadyOrder g done order)
    (hn : order.Nodup) {a b : String} (ha : a ∈ order) (hab : g.Edge a b) :
    b ∈ done ∨ order.idxOf b < order.idxOf a := by
  induction order generalizing done with
  | nil => simp at ha
  | cons n order ih =>
    obtain ⟨hnot, hn⟩ := List.nodup_cons.mp hn
    rcases List.mem_cons.mp ha with rfl | ha
    · exact Or.inl (h.1 b hab)
    · have hne : a ≠ n := fun he => hnot (he ▸ ha)
      by_cases hb : b = n
      · right
        simp [hb, hne.symm]
      · rcases ih h.2 hn ha with hd | hlt
        · exact Or.inl ((List.mem_cons.mp hd).resolve_left hb)
        · right
          simpa [List.idxOf_cons, hne.symm, Ne.symm hb] using hlt

theorem IsStartupOrder.acyclic {order : List String} (h : g.IsStartupOrder order) : g.Acyclic := by
  intro n hn
  have hlt : ∀ a, Relation.TransGen g.Edge n a → order.idxOf a < order.idxOf n := by
    intro a ha
    induction ha with
    | single hab => exact h.before hab
    | tail _ hbc ih => exact (h.before hbc).trans ih
  exact Nat.lt_irrefl _ (hlt n hn)

/-- An edge is listed as often on one side of the graph as on the other. -/
def Balanced (g : Graph) : Prop :=
  ∀ a b, (g.dependents b).count a = (g.dependencies a).count b

theorem Simple.balanced (hg : g.Simple) : g.Balanced := by
  intro a b
  rw [(hg.dependents_nodup b).count, (hg.dependencies_nodup a).count]
  exact if_congr hg.mem_dependents_iff rfl rfl

section Settlement

variable {done : List String} {waiting : List Waiting} {w : Waiting}

/-- What holds of the waiting behaviors: each counts the dependencies that are waiting too, and all
others are done. -/
structure Counted (g : Graph) (done : List String) (waiting : List Waiting) : Prop where
  count_eq : ∀ w ∈ waiting,
    w.count = (g.dependencies w.node).countP (· ∈ waiting.map (·.node))
  nodup : (waiting.map (·.node)).Nodup
  covered : ∀ n ∈ g.nodes, n ∈ waiting.map (·.node) ∨ n ∈ done

/-- The waiting list without its first ready behavior, which is released from the others. -/
def afterTaking (g : Graph) (waiting : List Waiting) (w : Waiting) : List Waiting :=
  (waiting.eraseP Waiting.isReady).map (Waiting.release (g.dependents w.node))

theorem exists_split (g : Graph) (h : waiting.find? Waiting.isReady = some w) :
    ∃ pre post, waiting = pre ++ w :: post ∧
      g.afterTaking waiting w = (pre ++ post).map (Waiting.release (g.dependents w.node)) ∧
      (g.afterTaking waiting w).map (·.node) = pre.map (·.node) ++ post.map (·.node) := by
  obtain ⟨hready, pre, post, rfl, hpre⟩ := List.find?_eq_some_iff_append.mp h
  have hafter : g.afterTaking (pre ++ w :: post) w =
      (pre ++ post).map (Waiting.release (g.dependents w.node)) := by
    rw [afterTaking, List.eraseP_append_right _ (by simpa using hpre),
      List.eraseP_cons_of_pos hready]
  exact ⟨pre, post, rfl, hafter, by simp [hafter, Waiting.release, Function.comp_def]⟩

theorem countP_mem_insert {l xs ys : List String} {x : String} (hx : x ∉ xs ++ ys) :
    l.countP (· ∈ xs ++ x :: ys) = l.countP (· ∈ xs ++ ys) + l.count x := by
  induction l with
  | nil => rfl
  | cons a l ih =>
    by_cases ha : a = x
    · subst ha
      have hnot : ¬ (a ∈ xs ∨ a ∈ ys) := by simpa using hx
      simp_all
      omega
    · simp_all [List.countP_cons]
      omega

theorem Counted.step (hb : g.Balanced) (h : g.Counted done waiting)
    (hw : waiting.find? Waiting.isReady = some w) :
    g.Counted (w.node :: done) (g.afterTaking waiting w) := by
  obtain ⟨pre, post, rfl, hafter, hnodes⟩ := exists_split g hw
  have hnodup := h.nodup
  rw [List.map_append, List.map_cons, List.nodup_middle] at hnodup
  obtain ⟨hnot, hnodup⟩ := List.nodup_cons.mp hnodup
  refine ⟨fun v hv => ?_, by rwa [hnodes], fun n hn => ?_⟩
  · rw [hafter] at hv
    obtain ⟨u, hu, rfl⟩ := List.mem_map.mp hv
    have hcount := h.count_eq u (by simp only [List.mem_append, List.mem_cons] at hu ⊢; tauto)
    rw [List.map_append, List.map_cons, countP_mem_insert hnot] at hcount
    rw [hnodes]
    simp only [Waiting.release, hcount, hb u.node w.node, Nat.add_sub_cancel]
  · rw [hnodes]
    rcases h.covered n hn with hm | hd
    · simp only [List.map_append, List.map_cons, List.mem_append, List.mem_cons] at hm ⊢
      tauto
    · exact Or.inr (List.mem_cons_of_mem _ hd)

theorem Counted.ready (hg : g.Consistent) (h : g.Counted done waiting) (hw : w ∈ waiting)
    (hzero : w.count = 0) {b : String} (hb : g.Edge w.node b) : b ∈ done := by
  have hnone := List.countP_eq_zero.mp ((h.count_eq w hw).symm.trans hzero) b hb
  exact (h.covered b (hg.target_mem hb)).resolve_left (by simpa using hnone)

theorem Counted.stuck (h : g.Counted done waiting) (hnone : waiting.find? Waiting.isReady = none)
    {n : String} (hn : n ∈ waiting.map (·.node)) : ∃ b ∈ waiting.map (·.node), g.Edge n b := by
  obtain ⟨w, hw, rfl⟩ := List.mem_map.mp hn
  have hpos : 0 < w.count := by
    simpa [Waiting.isReady, Nat.pos_iff_ne_zero] using List.find?_eq_none.mp hnone w hw
  rw [h.count_eq w hw] at hpos
  obtain ⟨b, hb, hm⟩ := List.countP_pos_iff.mp hpos
  exact ⟨b, by simpa using hm, hb⟩

theorem settleFrom_of_none (h : waiting.find? Waiting.isReady = none) :
    g.settleFrom waiting = ⟨[], waiting.map (·.node)⟩ := by
  rw [settleFrom]
  split
  · rfl
  · rename_i hw
    simp [h] at hw

theorem settleFrom_of_some (h : waiting.find? Waiting.isReady = some w) :
    g.settleFrom waiting = ⟨w.node :: (g.settleFrom (g.afterTaking waiting w)).ordered,
      (g.settleFrom (g.afterTaking waiting w)).remaining⟩ := by
  rw [settleFrom]
  split
  · rename_i hw
    simp [h] at hw
  · rename_i v hv
    obtain rfl : v = w := Option.some.inj (hv.symm.trans h)
    rfl

/-- The runs of the settlement, from its end to its start. -/
theorem settle_induction (g : Graph) {motive : List Waiting → Prop}
    (stop : ∀ waiting, waiting.find? Waiting.isReady = none → motive waiting)
    (take : ∀ waiting w, waiting.find? Waiting.isReady = some w →
      motive (g.afterTaking waiting w) → motive waiting)
    (waiting : List Waiting) : motive waiting := by
  induction waiting using settleFrom.induct g with
  | case1 waiting h => exact stop waiting h
  | case2 waiting w h ih => exact take waiting w h ih

theorem perm_settleFrom (waiting : List Waiting) :
    ((g.settleFrom waiting).ordered ++ (g.settleFrom waiting).remaining).Perm
      (waiting.map (·.node)) := by
  induction waiting using settle_induction g with
  | stop waiting h => simp [settleFrom_of_none h]
  | take waiting w h ih =>
    rw [settleFrom_of_some h]
    obtain ⟨pre, post, rfl, _, hnodes⟩ := exists_split g h
    rw [hnodes] at ih
    rw [List.map_append, List.map_cons]
    exact (ih.cons w.node).trans List.perm_middle.symm

theorem readyOrder_settleFrom (hg : g.Consistent) (hb : g.Balanced) (waiting : List Waiting)
    (done : List String) (h : g.Counted done waiting) :
    g.ReadyOrder done (g.settleFrom waiting).ordered := by
  induction waiting using settle_induction g generalizing done with
  | stop waiting hnone =>
    rw [settleFrom_of_none hnone]
    trivial
  | take waiting w hw ih =>
    rw [settleFrom_of_some hw]
    have hready : w.count = 0 := by simpa [Waiting.isReady] using List.find?_some hw
    exact ⟨fun b hb => h.ready hg (List.mem_of_find?_eq_some hw) hready hb, ih _ (h.step hb hw)⟩

theorem exists_edge_of_mem_remaining (hb : g.Balanced) (waiting : List Waiting)
    (done : List String) (h : g.Counted done waiting) :
    ∀ n ∈ (g.settleFrom waiting).remaining,
      ∃ b ∈ (g.settleFrom waiting).remaining, g.Edge n b := by
  induction waiting using settle_induction g generalizing done with
  | stop waiting hnone =>
    rw [settleFrom_of_none hnone]
    exact fun n hn => h.stuck hnone hn
  | take waiting w hw ih =>
    rw [settleFrom_of_some hw]
    exact ih _ (h.step hb hw)

end Settlement

theorem counted_waitingList (hg : g.Consistent) : g.Counted [] g.waitingList := by
  have hnodes : g.waitingList.map (·.node) = g.nodes := by
    simp [waitingList, Function.comp_def]
  refine ⟨fun w hw => ?_, hnodes ▸ hg.nodup, fun n hn => Or.inl (hnodes ▸ hn)⟩
  obtain ⟨n, _, rfl⟩ := List.mem_map.mp hw
  rw [hnodes, eq_comm, List.countP_eq_length]
  exact fun b hb => decide_eq_true (hg.target_mem (a := n) hb)

theorem perm_settle : (g.settle.ordered ++ g.settle.remaining).Perm g.nodes := by
  simpa [settle, waitingList, Function.comp_def] using perm_settleFrom g.waitingList

theorem nodup_ordered (hg : g.Consistent) : g.settle.ordered.Nodup :=
  (List.nodup_append.mp (perm_settle.nodup_iff.mpr hg.nodup)).1

theorem before_of_mem_ordered (hg : g.Consistent) (hb : g.Balanced) {a b : String}
    (ha : a ∈ g.settle.ordered) (hab : g.Edge a b) :
    b ∈ g.settle.ordered ∧ g.settle.ordered.idxOf b < g.settle.ordered.idxOf a := by
  have hready : g.ReadyOrder [] g.settle.ordered :=
    readyOrder_settleFrom hg hb g.waitingList [] (counted_waitingList hg)
  have hlt : g.settle.ordered.idxOf b < g.settle.ordered.idxOf a := by
    simpa using hready.idxOf_lt (nodup_ordered hg) ha hab
  exact ⟨List.idxOf_lt_length_iff.mp (hlt.trans (List.idxOf_lt_length_iff.mpr ha)), hlt⟩

theorem isStartupOrder_settle (hg : g.Consistent) (hb : g.Balanced)
    (h : g.settle.remaining = []) : g.IsStartupOrder g.settle.ordered := by
  have hperm : g.settle.ordered.Perm g.nodes := by simpa [h] using perm_settle (g := g)
  refine ⟨hperm, fun {a b} hab => ?_⟩
  have ha : a ∈ g.settle.ordered := hperm.mem_iff.mpr (hg.source_mem hab)
  exact (before_of_mem_ordered hg hb ha hab).2

/-- A behavior that remains depends on one that remains, so without cycles none does. -/
theorem settle_remaining_eq_nil (hg : g.Consistent) (hb : g.Balanced) (h : g.Acyclic) :
    g.settle.remaining = [] := by
  have hwf := wellFounded_of_cycles_eq_nil hg ((cycles_eq_nil_iff hg).mpr h)
  refine List.eq_nil_iff_forall_not_mem.mpr fun n => ?_
  -- The induction is along dependencies, so it needs no measure of the settlement.
  induction n using hwf.induction with
  | _ n ih =>
    intro hn
    obtain ⟨b, hb, hedge⟩ :=
      exists_edge_of_mem_remaining hb g.waitingList [] (counted_waitingList hg) n hn
    exact ih b hedge hb

theorem settle_remaining_eq_nil_iff (hg : g.Consistent) (hb : g.Balanced) :
    g.settle.remaining = [] ↔ g.Acyclic :=
  ⟨fun h => (isStartupOrder_settle hg hb h).acyclic, settle_remaining_eq_nil hg hb⟩

theorem startupOrder_eq (hg : g.Consistent) : g.startupOrder =
    if g.settle.remaining = [] then .ok g.settle.ordered
    else .error (.cyclic g.settle.remaining) := by
  obtain ⟨_, hnumbered⟩ := hg.exists_numbered_dependents
  rw [startupOrder, hnumbered]
  rfl

theorem startupOrder_of_acyclic (hg : g.Consistent) (hb : g.Balanced) (h : g.Acyclic) :
    ∃ order, g.startupOrder = .ok order ∧ g.IsStartupOrder order := by
  have hnil := settle_remaining_eq_nil hg hb h
  exact ⟨g.settle.ordered, by rw [startupOrder_eq hg, if_pos hnil],
    isStartupOrder_settle hg hb hnil⟩

/-- On every sound graph whose two sides list an edge equally often, the search for cycles and the
settlement agree, and what is ordered stands in the order of its dependencies. -/
theorem searches_agree_of_balanced (hg : Checked.defect? g = none) (hb : g.Balanced) :
    (g.cycles = [] ↔ g.settle.remaining = []) ∧
      ∀ a ∈ g.settle.ordered, ∀ b ∈ g.dependencies a,
        b ∈ g.settle.ordered ∧ g.settle.ordered.idxOf b < g.settle.ordered.idxOf a := by
  have hc := consistent_of_sound hg
  refine ⟨(cycles_eq_nil_iff hc).trans (settle_remaining_eq_nil_iff hc hb).symm,
    fun a ha b hab => before_of_mem_ordered hc hb ha hab⟩

/-- `A` depends on `B`, which both sides list twice, and `C` on itself. -/
def twiceOnBothSides : Graph where
  nodes := ["A", "B", "C"]
  forward := ⟨[("A", ["B", "B"]), ("C", ["C"])]⟩
  reverse := ⟨[("B", ["A", "A"]), ("C", ["C"])]⟩

theorem balanced_twiceOnBothSides : twiceOnBothSides.Balanced := by
  intro a b
  simp only [twiceOnBothSides, dependents, dependencies, Table.get?, List.lookup_cons,
    List.lookup_nil]
  grind

theorem searches_agree_twiceOnBothSides :
    twiceOnBothSides.settle = ⟨["B", "A"], ["C"]⟩ ∧
      (twiceOnBothSides.cycles = [] ↔ twiceOnBothSides.settle.remaining = []) ∧
      ∀ a ∈ twiceOnBothSides.settle.ordered, ∀ b ∈ twiceOnBothSides.dependencies a,
        b ∈ twiceOnBothSides.settle.ordered ∧
          twiceOnBothSides.settle.ordered.idxOf b < twiceOnBothSides.settle.ordered.idxOf a :=
  ⟨by decide +kernel, searches_agree_of_balanced (by decide) balanced_twiceOnBothSides⟩

/-- `A` lists its dependency on `B` twice, `B` lists the dependent once. -/
def twiceOnOneSide : Graph where
  nodes := ["A", "B"]
  forward := ⟨[("A", ["B", "B"])]⟩
  reverse := ⟨[("B", ["A"])]⟩

/-- A graph is sound as soon as both sides hold the same edges, and then the settlement may keep
back a behavior although there is no cycle. -/
theorem not_searches_agree_of_sound : ¬ ∀ g : Graph, Checked.defect? g = none →
    (g.cycles = [] ↔ g.settle.remaining = []) ∧
      ∀ a ∈ g.settle.ordered, ∀ b ∈ g.dependencies a,
        b ∈ g.settle.ordered ∧ g.settle.ordered.idxOf b < g.settle.ordered.idxOf a := by
  intro h
  have hnone : twiceOnOneSide.cycles = [] := by
    simp [cycles, cyclesFrom, frame, twiceOnOneSide, dependencies, Table.get?, List.lookup_cons]
  have hone : twiceOnOneSide.settle.remaining = ["A"] := by decide +kernel
  have hnil := (h twiceOnOneSide (by decide)).1.mp hnone
  simp [hone] at hnil

end BehaviorPlan.Graph
