import Mathlib.Data.List.Rotate
import BehaviorPlan.Proofs.Graph.Cycles

/-! # Edges that close cycles

Every reported cycle has a closing edge of its own and lists its behaviors in the order in which the
search met them, so no cycle is reported twice, wherever one starts to read it. Without the closing
edges there are no cycles, so every group of behaviors that depend on each other contains a reported
cycle. -/
namespace BehaviorPlan.Graph

/-- An edge that closes none of the cycles. -/
def KeptEdge (g : Graph) (cycles : List (List String)) (a b : String) : Prop :=
  g.Edge a b ∧ ∀ c ∈ cycles, ¬ Closes c a b

/-- The behaviors are the same, or each depends on the other, directly or not. -/
def Connected (g : Graph) (a b : String) : Prop :=
  Relation.ReflTransGen g.Edge a b ∧ Relation.ReflTransGen g.Edge b a

/-- What is reported are cycles, none of them twice, and enough of them: without their closing edges
no behavior depends on itself, and whatever depends on itself is connected with all of a reported
cycle. -/
structure CyclesReported (g : Graph) (cycles : List (List String)) : Prop where
  ne_nil : ∀ c ∈ cycles, c ≠ []
  isCycle : ∀ c ∈ cycles, g.IsCycle c
  not_isRotated : cycles.Pairwise fun c d => ¬ c.IsRotated d
  feedback : ∀ n, ¬ Relation.TransGen (g.KeptEdge cycles) n n
  eq_nil_iff : cycles = [] ↔ g.Acyclic
  component : ∀ n, Relation.TransGen g.Edge n n → ∃ c ∈ cycles, ∀ m ∈ c, g.Connected n m

section Search

variable {g : Graph} {unseen pending met : List String} {path : List Frame} {node next : String}

theorem perm_append_erase {met unseen : List String} {n : String} (h : n ∈ unseen) :
    (met ++ [n] ++ unseen.erase n).Perm (met ++ unseen) := by
  rw [List.append_assoc]
  exact (List.perm_cons_erase h).symm.append_left met

/-- No behavior is met twice, and the path is in the order of meeting. -/
structure Meeting (unseen : List String) (path : List Frame) (met : List String) : Prop where
  nodup : (met ++ unseen).Nodup
  sublist : (path.map (·.node)).reverse.Sublist met

theorem Meeting.start {root : String} (h : Meeting (root :: unseen) [] met) :
    Meeting unseen [g.frame root] (met ++ [root]) where
  nodup := by simpa using h.nodup
  sublist := by simp [frame]

theorem Meeting.leave {f : Frame} (h : Meeting unseen (f :: path) met) :
    Meeting unseen path met where
  nodup := h.nodup
  sublist := by
    have hpath := h.sublist
    rw [List.map_cons, List.reverse_cons] at hpath
    exact (List.sublist_append_left _ _).trans hpath

theorem Meeting.follow (h : Meeting unseen (⟨node, next :: pending⟩ :: path) met) :
    Meeting unseen (⟨node, pending⟩ :: path) met where
  nodup := h.nodup
  sublist := h.sublist

theorem Meeting.enter (h : Meeting unseen path met) (hnext : next ∈ unseen) :
    Meeting (unseen.erase next) (g.frame next :: path) (met ++ [next]) where
  nodup := (perm_append_erase hnext).nodup_iff.mpr h.nodup
  sublist := by
    rw [List.map_cons, List.reverse_cons]
    exact h.sublist.append_right _

theorem exists_meeting_order (unseen : List String) (path : List Frame) (met : List String)
    (h : Meeting unseen path met) :
    ∃ all : List String, all.Nodup ∧ met <+: all ∧ ∀ c ∈ g.cyclesFrom unseen path, c.Sublist all := by
  induction unseen, path using search_induction g generalizing met with
  | stop => exact ⟨met, by simpa using h.nodup, List.prefix_rfl, by simp [cyclesFrom]⟩
  | start root unseen ih =>
    obtain ⟨all, hall, hmet, hcycles⟩ := ih _ h.start
    exact ⟨all, hall, (List.prefix_append _ _).trans hmet, by rwa [cyclesFrom]⟩
  | leave unseen node path ih =>
    rw [cyclesFrom]
    exact ih met h.leave
  | close unseen node next pending path hnext ih =>
    obtain ⟨all, hall, hmet, hcycles⟩ := ih met h.follow
    refine ⟨all, hall, hmet, fun c hc => ?_⟩
    rw [cyclesFrom_cons, if_pos hnext] at hc
    rcases List.mem_cons.mp hc with rfl | hc
    · -- The cycle is a part of the path, and the path stands in the order in which it was met.
      have hpath := h.sublist
      rw [List.map_cons] at hpath
      exact ((takeWhile_concat_isPrefix hnext).sublist.reverse.trans hpath).trans hmet.sublist
    · exact hcycles c hc
  | enter unseen node next pending path hnot hnext ih =>
    obtain ⟨all, hall, hmet, hcycles⟩ := ih _ (h.follow.enter hnext)
    refine ⟨all, hall, (List.prefix_append _ _).trans hmet, ?_⟩
    rwa [cyclesFrom_cons, if_neg hnot, if_pos hnext]
  | skip unseen node next pending path hnot hseen ih =>
    rw [cyclesFrom_cons, if_neg hnot, if_neg hseen]
    exact ih met h.follow

/-- The edge is still to be followed: it is pending on the path or starts at an unseen behavior. -/
def ToFollow (unseen : List String) (path : List Frame) (a b : String) : Prop :=
  (∃ f ∈ path, f.node = a ∧ b ∈ f.pending) ∨ a ∈ unseen

theorem ToFollow.prepend {a b : String} (h : ToFollow unseen (⟨node, pending⟩ :: path) a b) :
    ToFollow unseen (⟨node, next :: pending⟩ :: path) a b := by
  rcases h with ⟨f, hf, rfl, hb⟩ | ha
  · rcases List.mem_cons.mp hf with rfl | hf
    · exact Or.inl ⟨_, List.mem_cons_self .., rfl, List.mem_cons_of_mem _ hb⟩
    · exact Or.inl ⟨f, List.mem_cons_of_mem _ hf, rfl, hb⟩
  · exact Or.inr ha

theorem Closes.unique {c : List String} {a b a' b' : String} (h : Closes c a b)
    (h' : Closes c a' b') : a = a' ∧ b = b' :=
  ⟨Option.some.inj (h.1.symm.trans h'.1), Option.some.inj (h.2.symm.trans h'.2)⟩

theorem toFollow_of_closes (unseen : List String) (path : List Frame) :
    ∀ c ∈ g.cyclesFrom unseen path, ∀ a b, Closes c a b → ToFollow unseen path a b := by
  induction unseen, path using search_induction g with
  | stop => simp [cyclesFrom]
  | start root unseen ih =>
    rw [cyclesFrom]
    intro c hc a b hclosing
    rcases ih c hc a b hclosing with ⟨f, hf, rfl, -⟩ | ha
    · rw [List.mem_singleton.mp hf]
      exact Or.inr (List.mem_cons_self ..)
    · exact Or.inr (List.mem_cons_of_mem _ ha)
  | leave unseen node path ih =>
    rw [cyclesFrom]
    intro c hc a b hclosing
    rcases ih c hc a b hclosing with ⟨f, hf, h⟩ | ha
    · exact Or.inl ⟨f, List.mem_cons_of_mem _ hf, h⟩
    · exact Or.inr ha
  | close unseen node next pending path hnext ih =>
    rw [cyclesFrom_cons, if_pos hnext]
    intro c hc a b hclosing
    rcases List.mem_cons.mp hc with rfl | hc
    · obtain ⟨rfl, rfl⟩ := Closes.unique closes_closedBy hclosing
      exact Or.inl ⟨_, List.mem_cons_self .., rfl, List.mem_cons_self ..⟩
    · exact (ih c hc a b hclosing).prepend
  | enter unseen node next pending path hnot hnext ih =>
    rw [cyclesFrom_cons, if_neg hnot, if_pos hnext]
    intro c hc a b hclosing
    rcases ih c hc a b hclosing with ⟨f, hf, rfl, hb⟩ | ha
    · rcases List.mem_cons.mp hf with rfl | hf
      · -- The edges of the new frame start at a behavior that was unseen before the step.
        exact Or.inr hnext
      · exact ToFollow.prepend (Or.inl ⟨f, hf, rfl, hb⟩)
    · exact Or.inr (List.mem_of_mem_erase ha)
  | skip unseen node next pending path hnot hseen ih =>
    rw [cyclesFrom_cons, if_neg hnot, if_neg hseen]
    exact fun c hc a b hclosing => (ih c hc a b hclosing).prepend

/-- Every behavior is entered once and follows each of its edges once. -/
structure Fresh (unseen : List String) (path : List Frame) : Prop where
  nodup : (path.map (·.node) ++ unseen).Nodup
  pending_nodup : ∀ f ∈ path, f.pending.Nodup

theorem Fresh.follow (h : Fresh unseen (⟨node, next :: pending⟩ :: path)) :
    Fresh unseen (⟨node, pending⟩ :: path) where
  nodup := h.nodup
  pending_nodup f hf := by
    rcases List.mem_cons.mp hf with rfl | hf
    · exact (List.nodup_cons.mp (h.pending_nodup _ (List.mem_cons_self ..))).2
    · exact h.pending_nodup f (List.mem_cons_of_mem _ hf)

theorem Fresh.enter (hg : g.Simple) (h : Fresh unseen path) (hnext : next ∈ unseen) :
    Fresh (unseen.erase next) (g.frame next :: path) where
  nodup := by
    have hperm : (next :: path.map (·.node) ++ unseen.erase next).Perm
        (path.map (·.node) ++ unseen) :=
      List.perm_middle.symm.trans ((List.perm_cons_erase hnext).symm.append_left _)
    exact hperm.nodup_iff.mpr h.nodup
  pending_nodup f hf := by
    rcases List.mem_cons.mp hf with rfl | hf
    · exact hg.dependencies_nodup next
    · exact h.pending_nodup f hf

theorem Fresh.not_toFollow (h : Fresh unseen (⟨node, next :: pending⟩ :: path)) :
    ¬ ToFollow unseen (⟨node, pending⟩ :: path) node next := by
  have hnode := (List.nodup_cons.mp h.nodup).1
  rintro (⟨f, hf, hname, hnext⟩ | hunseen)
  · rcases List.mem_cons.mp hf with rfl | hf
    · exact (List.nodup_cons.mp (h.pending_nodup _ (List.mem_cons_self ..))).1 hnext
    · exact hnode (List.mem_append_left _ (List.mem_map.mpr ⟨f, hf, hname⟩))
  · exact hnode (List.mem_append_right _ hunseen)

theorem pairwise_not_closes (hg : g.Simple) (unseen : List String) (path : List Frame)
    (h : Fresh unseen path) : (g.cyclesFrom unseen path).Pairwise fun c d =>
      ∀ a b, Closes c a b → ¬ Closes d a b := by
  induction unseen, path using search_induction g with
  | stop => simp [cyclesFrom]
  | start root unseen ih =>
    rw [cyclesFrom]
    exact ih ⟨h.nodup, by simpa [frame] using hg.dependencies_nodup root⟩
  | leave unseen node path ih =>
    rw [cyclesFrom]
    exact ih ⟨(List.nodup_cons.mp h.nodup).2, fun f hf =>
      h.pending_nodup f (List.mem_cons_of_mem _ hf)⟩
  | close unseen node next pending path hnext ih =>
    rw [cyclesFrom_cons, if_pos hnext]
    refine List.pairwise_cons.mpr ⟨fun d hd a b hc hclosing => ?_, ih h.follow⟩
    obtain ⟨rfl, rfl⟩ := Closes.unique closes_closedBy hc
    exact h.not_toFollow (toFollow_of_closes _ _ d hd _ _ hclosing)
  | enter unseen node next pending path hnot hnext ih =>
    rw [cyclesFrom_cons, if_neg hnot, if_pos hnext]
    exact ih (h.follow.enter hg hnext)
  | skip unseen node next pending path hnot hseen ih =>
    rw [cyclesFrom_cons, if_neg hnot, if_neg hseen]
    exact ih h.follow

end Search

section Reported

variable {g : Graph}

/-- A rotation of a cycle would list the same behaviors in the same order and have the same closing
edge. -/
theorem pairwise_not_isRotated (hg : g.Simple) :
    g.cycles.Pairwise fun c d => ¬ c.IsRotated d := by
  have hnodup : ([] ++ g.nodes).Nodup := hg.nodup
  obtain ⟨all, hall, -, hsublist⟩ :=
    @exists_meeting_order g g.nodes [] [] ⟨hnodup, List.nil_sublist _⟩
  refine (pairwise_not_closes hg g.nodes [] ⟨hnodup, nofun⟩).imp_of_mem ?_
  intro c d hc hd hclosing hrotated
  have heq : c = d :=
    eq_of_perm_of_sublist hall (hsublist c hc) (hsublist d hd) hrotated.perm
  obtain ⟨a, b, ha, hb, -⟩ := (isCycle_of_mem_cycles hc).closing
  exact hclosing a b ⟨ha, hb⟩ (heq ▸ ⟨ha, hb⟩)

theorem not_transGen_keptEdge (hg : g.Consistent) (n : String) :
    ¬ Relation.TransGen (g.KeptEdge g.cycles) n n := by
  have hwf : WellFounded fun b a => g.Edge a b ∧ ¬ ∃ c ∈ g.cycles, Closes c a b :=
    wellFounded_of_closed hg fun c hc a b h => ⟨c, hc, h⟩
  simp only [not_exists, not_and] at hwf
  exact not_transGen_of_wellFounded hwf n

theorem Connected.trans {a b c : String} (h : g.Connected a b) (h' : g.Connected b c) :
    g.Connected a c :=
  ⟨h.1.trans h'.1, h'.2.trans h.2⟩

theorem IsCycle.connected {c : List String} (h : g.IsCycle c) {m n : String} (hm : m ∈ c)
    (hn : n ∈ c) : g.Connected m n :=
  ⟨(h.transGen_of_mem hm hn).to_reflTransGen, (h.transGen_of_mem hn hm).to_reflTransGen⟩

/-- A way back to its start is among connected behaviors. If none of their edges closed a reported
cycle, it would be a way along kept edges. -/
theorem exists_mem_cycles_connected (hg : g.Consistent) {n : String}
    (hn : Relation.TransGen g.Edge n n) : ∃ c ∈ g.cycles, ∀ m ∈ c, g.Connected n m := by
  by_contra hnone
  have hkept : ∀ {a b}, g.Connected n a → g.Edge a b → g.KeptEdge g.cycles a b := by
    intro a b ha hab
    refine ⟨hab, fun c hc hclosing => hnone ⟨c, hc, fun m hm => ?_⟩⟩
    exact ha.trans ((isCycle_of_mem_cycles hc).connected (List.mem_of_getLast? hclosing.1) hm)
  have hway : ∀ {b}, Relation.TransGen g.Edge n b → Relation.ReflTransGen g.Edge b n →
      Relation.TransGen (g.KeptEdge g.cycles) n b := by
    intro b hb
    induction hb with
    | single hnb => exact fun hback => .single (hkept ⟨.refl, .refl⟩ hnb)
    | @tail a b hna hab ih =>
      intro hback
      have hback' : Relation.ReflTransGen g.Edge a n := hback.head hab
      exact (ih hback').tail (hkept ⟨hna.to_reflTransGen, hback'⟩ hab)
  exact not_transGen_keptEdge hg n (hway hn .refl)

theorem cyclesReported (hg : g.Simple) : g.CyclesReported g.cycles where
  ne_nil _ hc := (isCycle_of_mem_cycles hc).ne_nil
  isCycle _ := isCycle_of_mem_cycles
  not_isRotated := pairwise_not_isRotated hg
  feedback := not_transGen_keptEdge hg.toConsistent
  eq_nil_iff := cycles_eq_nil_iff hg.toConsistent
  component _ := exists_mem_cycles_connected hg.toConsistent

/-- In every graph that is made of edges between distinct nodes the search for cycles reports just
cycles, none of them twice, and at least one wherever there are any. -/
theorem cyclesReported_of_ofEdges (nodes : List String) (edges : List (String × String))
    (unknownTargets : List UnknownTarget) (hn : nodes.Nodup)
    (he : ∀ e ∈ edges, e.1 ∈ nodes ∧ e.2 ∈ nodes) :
    ∃ g, ofEdges nodes edges unknownTargets = .ok g ∧ g.nodes = nodes ∧
      (∀ a b, g.Edge a b ↔ (a, b) ∈ edges) ∧ g.CyclesReported g.cycles := by
  obtain ⟨g, hg, hsimple, hnodes, hedge, -⟩ := @ofEdges_spec _ _ unknownTargets hn he
  exact ⟨g, hg, hnodes, hedge, cyclesReported hsimple⟩

/-- Two cycles through `A` and `B`, one of them through `C` too, and `D`, which depends on itself. -/
def eightAndLoop : List (String × String) :=
  [("A", "B"), ("B", "A"), ("B", "C"), ("C", "A"), ("D", "C"), ("D", "D")]

theorem cycles_eightAndLoop : (joined ["A", "B", "C", "D"] eightAndLoop []).cycles =
    [["A", "B"], ["A", "B", "C"], ["D"]] := by
  generalize hg : joined ["A", "B", "C", "D"] eightAndLoop [] = g
  have hnodes : g.nodes = ["A", "B", "C", "D"] := hg ▸ rfl
  have hA : g.dependencies "A" = ["B"] := hg ▸ rfl
  have hB : g.dependencies "B" = ["A", "C"] := hg ▸ rfl
  have hC : g.dependencies "C" = ["A"] := hg ▸ rfl
  have hD : g.dependencies "D" = ["C", "D"] := hg ▸ rfl
  simp [cycles, cyclesFrom, frame, closedBy, hnodes, hA, hB, hC, hD]

theorem cyclesReported_eightAndLoop : ∃ g,
    ofEdges ["A", "B", "C", "D"] eightAndLoop = .ok g ∧
      g.cycles = [["A", "B"], ["A", "B", "C"], ["D"]] ∧ g.CyclesReported g.cycles := by
  obtain ⟨g, hg, -, -, hreported⟩ :=
    cyclesReported_of_ofEdges ["A", "B", "C", "D"] eightAndLoop [] (by decide) (by decide)
  have hjoined : ofEdges ["A", "B", "C", "D"] eightAndLoop =
      .ok (joined ["A", "B", "C", "D"] eightAndLoop []) := by decide
  obtain rfl := Except.ok.inj (hjoined.symm.trans hg)
  exact ⟨_, hg, cycles_eightAndLoop, hreported⟩

end Reported

end BehaviorPlan.Graph
