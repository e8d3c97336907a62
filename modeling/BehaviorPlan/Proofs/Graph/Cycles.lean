import Mathlib.Data.List.Chain
import Mathlib.Order.RelClasses
import BehaviorPlan.Graph.Cycles
import BehaviorPlan.Proofs.Graph.Edges

/-! # The search for cycles

Every reported cycle is one, and every edge that closes no reported cycle leads to a behavior
that the search finished earlier. So nothing is reported exactly if no behavior depends on itself,
and the graph without the closing edges has no cycles at all. -/
namespace BehaviorPlan.Graph

/-- Each behavior depends on the next one and the last one on the first; none occurs twice. -/
structure IsCycle (g : Graph) (c : List String) : Prop where
  nodup : c.Nodup
  chain : c.IsChain g.Edge
  closing : ∃ a b, c.getLast? = some a ∧ c.head? = some b ∧ g.Edge a b

/-- The edge by which a cycle gets back to its first behavior. -/
def Closes (c : List String) (a b : String) : Prop :=
  c.getLast? = some a ∧ c.head? = some b

theorem IsCycle.transGen_of_mem {g : Graph} {c : List String} (h : g.IsCycle c) {m n : String}
    (hm : m ∈ c) (hn : n ∈ c) : Relation.TransGen g.Edge m n := by
  obtain ⟨a, b, ha, hb, hab⟩ := h.closing
  have hne : c ≠ [] := List.ne_nil_of_mem hn
  have hlast : c.getLast hne = a :=
    Option.some.inj ((List.getLast?_eq_some_getLast hne).symm.trans ha)
  have hhead : c.head hne = b := Option.some.inj ((List.head?_eq_some_head hne).symm.trans hb)
  have htoLast : Relation.ReflTransGen g.Edge m a :=
    h.chain.backwards_induction (Relation.ReflTransGen g.Edge · a) c
      (fun _ _ hxy hy => hy.head hxy) (fun _ => hlast ▸ .refl) m hm
  have hfromHead : Relation.ReflTransGen g.Edge b n :=
    h.chain.induction (Relation.ReflTransGen g.Edge b ·) c
      (fun _ _ hxy hx => hx.tail hxy) (fun _ => hhead ▸ .refl) n hn
  exact (Relation.TransGen.tail' htoLast hab).trans_left hfromHead

theorem IsCycle.transGen {g : Graph} {c : List String} (h : g.IsCycle c) {n : String} (hn : n ∈ c) :
    Relation.TransGen g.Edge n n :=
  h.transGen_of_mem hn hn

section Search

variable {g : Graph} {closed : String → String → Prop} {done done' above above' : List String}

/-- Every edge out of a finished behavior leads to one finished before, or is closed. The last one
to finish comes first. -/
def Finished (g : Graph) (closed : String → String → Prop) : List String → Prop
  | [] => True
  | a :: done => (∀ b, g.Edge a b → b ∈ done ∨ closed a b) ∧ Finished g closed done

/-- Every edge out of a behavior on the search path is pending or closed, or it leads to a finished
behavior or further along the path; `above` are the behaviors further along. -/
def Explored (g : Graph) (closed : String → String → Prop) (done : List String) :
    List String → List Frame → Prop
  | _, [] => True
  | above, f :: path =>
    (∀ b, g.Edge f.node b → b ∈ f.pending ∨ b ∈ done ∨ b ∈ above ∨ closed f.node b) ∧
      Explored g closed done (f.node :: above) path

/-- From finished behaviors only finitely many steps along edges that are not closed are
possible. -/
theorem Finished.acc (h : Finished g closed done) :
    ∀ a ∈ done, Acc (fun b a => g.Edge a b ∧ ¬ closed a b) a := by
  induction done with
  | nil => simp
  | cons a done ih =>
    intro n hn
    rcases List.mem_cons.mp hn with rfl | hn
    · refine Acc.intro n fun b hb => ?_
      exact ih h.2 b ((h.1 b hb.1).resolve_right hb.2)
    · exact ih h.2 n hn

theorem Explored.mono {path : List Frame} (h : Explored g closed done above path)
    (hsub : ∀ b, b ∈ done ∨ b ∈ above → b ∈ done' ∨ b ∈ above') :
    Explored g closed done' above' path := by
  induction path generalizing above above' with
  | nil => trivial
  | cons f path ih =>
    refine ⟨fun b hb => ?_, ih h.2 fun b hb => ?_⟩
    · rcases h.1 b hb with hp | hd | ha | hc
      · exact Or.inl hp
      · exact Or.inr ((hsub b (Or.inl hd)).imp_right Or.inl)
      · exact Or.inr ((hsub b (Or.inr ha)).imp_right Or.inl)
      · exact Or.inr (Or.inr (Or.inr hc))
    · rcases hb with hd | ha
      · exact (hsub b (Or.inl hd)).imp_right (List.mem_cons_of_mem _)
      · rcases List.mem_cons.mp ha with rfl | ha
        · exact Or.inr (List.mem_cons_self ..)
        · exact (hsub b (Or.inr ha)).imp_right (List.mem_cons_of_mem _)

theorem Explored.account {node next : String} {pending : List String} {path : List Frame}
    (h : Explored g closed done above (⟨node, next :: pending⟩ :: path))
    (hnext : next ∈ done ∨ next ∈ above ∨ closed node next) :
    Explored g closed done above (⟨node, pending⟩ :: path) := by
  refine ⟨fun b hb => ?_, h.2⟩
  rcases h.1 b hb with hp | hrest
  · rcases List.mem_cons.mp hp with rfl | hp
    · exact Or.inr hnext
    · exact Or.inl hp
  · exact Or.inr hrest

theorem closes_closedBy {node next : String} {path : List String} :
    Closes (closedBy (node :: path) next) node next := by
  refine ⟨?_, by simp [closedBy]⟩
  rw [closedBy, List.getLast?_reverse]
  by_cases h : node = next <;> simp [h]

def Follows (g : Graph) (path : List Frame) : Prop :=
  ∀ f ∈ path, ∀ b ∈ f.pending, g.Edge f.node b

theorem Follows.leave {f : Frame} {path : List Frame} (h : Follows g (f :: path)) :
    Follows g path := fun f hf => h f (List.mem_cons_of_mem _ hf)

theorem Follows.enter {path : List Frame} (h : Follows g path) (node : String) :
    Follows g (g.frame node :: path) := by
  intro f hf b hb
  rcases List.mem_cons.mp hf with rfl | hf
  · exact hb
  · exact h f hf b hb

theorem Follows.edge {node next : String} {pending : List String} {path : List Frame}
    (h : Follows g (⟨node, next :: pending⟩ :: path)) : g.Edge node next :=
  h _ (List.mem_cons_self ..) _ (List.mem_cons_self ..)

theorem Follows.tail {node next : String} {pending : List String} {path : List Frame}
    (h : Follows g (⟨node, next :: pending⟩ :: path)) : Follows g (⟨node, pending⟩ :: path) := by
  intro f hf b hb
  rcases List.mem_cons.mp hf with rfl | hf
  · exact h _ (List.mem_cons_self ..) b (List.mem_cons_of_mem _ hb)
  · exact h f (List.mem_cons_of_mem _ hf) b hb

theorem follows_nil : Follows g [] := fun _ hf => absurd hf List.not_mem_nil

/-- What holds between the steps of a search: every node is unseen, on the path or finished, and
the edges out of the path and out of the finished behaviors are accounted for. -/
structure Searching (g : Graph) (closed : String → String → Prop) (unseen : List String)
    (path : List Frame) (done : List String) : Prop where
  covered : ∀ n ∈ g.nodes, n ∈ unseen ∨ n ∈ path.map (·.node) ∨ n ∈ done
  follows : Follows g path
  explored : Explored g closed done [] path
  finished : Finished g closed done

theorem Searching.start {root : String} {unseen : List String}
    (h : Searching g closed (root :: unseen) [] done) :
    Searching g closed unseen [g.frame root] done where
  covered n hn := by simpa [frame, or_assoc, or_left_comm] using h.covered n hn
  follows := follows_nil.enter root
  explored := ⟨fun _ hb => Or.inl hb, trivial⟩
  finished := h.finished

theorem Searching.leave {unseen : List String} {node : String} {path : List Frame}
    (h : Searching g closed unseen (⟨node, []⟩ :: path) done) :
    Searching g closed unseen path (node :: done) where
  covered n hn := by simpa [or_assoc, or_left_comm] using h.covered n hn
  follows := h.follows.leave
  explored := h.explored.2.mono fun b hb => Or.inl (by simpa [or_comm] using hb)
  finished := ⟨fun b hb => by simpa using h.explored.1 b hb, h.finished⟩

theorem Searching.account {unseen pending : List String} {node next : String} {path : List Frame}
    (h : Searching g closed unseen (⟨node, next :: pending⟩ :: path) done)
    (hnext : next ∈ done ∨ closed node next) :
    Searching g closed unseen (⟨node, pending⟩ :: path) done where
  covered := h.covered
  follows := h.follows.tail
  explored := h.explored.account (hnext.imp_right Or.inr)
  finished := h.finished

theorem Searching.enter {unseen pending : List String} {node next : String} {path : List Frame}
    (h : Searching g closed unseen (⟨node, next :: pending⟩ :: path) done) :
    Searching g closed (unseen.erase next) (g.frame next :: ⟨node, pending⟩ :: path) done where
  covered n hn := by
    rcases h.covered n hn with hu | hp | hd
    · by_cases he : n = next
      · simp [frame, he]
      · exact Or.inl ((List.mem_erase_of_ne he).mpr hu)
    · exact Or.inr (Or.inl (List.mem_cons_of_mem _ hp))
    · exact Or.inr (Or.inr hd)
  follows := h.follows.tail.enter next
  explored := by
    have habove : Explored g closed done [next] (⟨node, next :: pending⟩ :: path) :=
      h.explored.mono fun b hb => Or.inl (hb.resolve_right List.not_mem_nil)
    exact ⟨fun b hb => Or.inl hb, habove.account (Or.inr (Or.inl (List.mem_singleton_self _)))⟩
  finished := h.finished

theorem cyclesFrom_cons (unseen : List String) (node next : String) (pending : List String)
    (path : List Frame) :
    g.cyclesFrom unseen (⟨node, next :: pending⟩ :: path) =
      if next ∈ node :: path.map (·.node) then
        closedBy (node :: path.map (·.node)) next :: g.cyclesFrom unseen (⟨node, pending⟩ :: path)
      else if next ∈ unseen then
        g.cyclesFrom (unseen.erase next) (g.frame next :: ⟨node, pending⟩ :: path)
      else g.cyclesFrom unseen (⟨node, pending⟩ :: path) := by
  rw [cyclesFrom]

theorem search_induction (g : Graph) {motive : List String → List Frame → Prop}
    (stop : motive [] [])
    (start : ∀ root unseen, motive unseen [g.frame root] → motive (root :: unseen) [])
    (leave : ∀ unseen node path, motive unseen path → motive unseen (⟨node, []⟩ :: path))
    (close : ∀ unseen node next pending path, next ∈ node :: path.map (·.node) →
      motive unseen (⟨node, pending⟩ :: path) → motive unseen (⟨node, next :: pending⟩ :: path))
    (enter : ∀ unseen node next pending path, next ∉ node :: path.map (·.node) → next ∈ unseen →
      motive (unseen.erase next) (g.frame next :: ⟨node, pending⟩ :: path) →
      motive unseen (⟨node, next :: pending⟩ :: path))
    (skip : ∀ unseen node next pending path, next ∉ node :: path.map (·.node) → next ∉ unseen →
      motive unseen (⟨node, pending⟩ :: path) → motive unseen (⟨node, next :: pending⟩ :: path))
    (unseen : List String) (path : List Frame) : motive unseen path := by
  induction unseen, path using cyclesFrom.induct g with
  | case1 => exact stop
  | case2 root unseen ih => exact start root unseen ih
  | case3 unseen node path ih => exact leave unseen node path ih
  | case4 unseen node next pending path trail hn ih =>
    exact close unseen node next pending path (by simpa [trail] using hn) ih
  | case5 unseen node next pending path trail hn hu ih =>
    exact enter unseen node next pending path (by simpa [trail] using hn) hu ih
  | case6 unseen node next pending path trail hn hu ih =>
    exact skip unseen node next pending path (by simpa [trail] using hn) hu ih

theorem exists_finished (htarget : ∀ {a b}, g.Edge a b → b ∈ g.nodes) (unseen : List String)
    (path : List Frame) (done : List String)
    (hclosed : ∀ c ∈ g.cyclesFrom unseen path, ∀ a b, Closes c a b → closed a b)
    (h : Searching g closed unseen path done) :
    ∃ all, (∀ n ∈ g.nodes, n ∈ all) ∧ Finished g closed all := by
  induction unseen, path using search_induction g generalizing done with
  | stop => exact ⟨done, by simpa using h.covered, h.finished⟩
  | start root unseen ih => exact ih done (by rwa [cyclesFrom] at hclosed) h.start
  | leave unseen node path ih => exact ih (node :: done) (by rwa [cyclesFrom] at hclosed) h.leave
  | close unseen node next pending path hnext ih =>
    rw [cyclesFrom_cons, if_pos hnext] at hclosed
    have hedge : closed node next := hclosed _ (List.mem_cons_self ..) _ _ closes_closedBy
    exact ih done (fun c hc => hclosed c (List.mem_cons_of_mem _ hc)) (h.account (Or.inr hedge))
  | enter unseen node next pending path hnot hnext ih =>
    rw [cyclesFrom_cons, if_neg hnot, if_pos hnext] at hclosed
    exact ih done hclosed h.enter
  | skip unseen node next pending path hnot hseen ih =>
    rw [cyclesFrom_cons, if_neg hnot, if_neg hseen] at hclosed
    -- What was seen and is not on the path is finished.
    have hnode : next ∈ g.nodes := htarget h.follows.edge
    have hdone : next ∈ done := ((h.covered next hnode).resolve_left hseen).resolve_left hnot
    exact ih done hclosed (h.account (Or.inl hdone))

theorem takeWhile_concat_isPrefix {trail : List String} {n : String} (h : n ∈ trail) :
    trail.takeWhile (· ≠ n) ++ [n] <+: trail := by
  induction trail with
  | nil => simp at h
  | cons a trail ih =>
    by_cases ha : a = n
    · simp [ha]
    · have hn : n ∈ trail := (List.mem_cons.mp h).resolve_left (Ne.symm ha)
      simpa [ha] using ih hn

theorem isCycle_closedBy {node next : String} {path : List String} (hn : (node :: path).Nodup)
    (hc : (node :: path).IsChain fun a b => g.Edge b a) (hnext : next ∈ node :: path)
    (hedge : g.Edge node next) : g.IsCycle (closedBy (node :: path) next) := by
  have hpre := takeWhile_concat_isPrefix hnext
  refine ⟨?_, ?_, node, next, closes_closedBy.1, closes_closedBy.2, hedge⟩
  · exact List.nodup_reverse.mpr (hn.sublist hpre.sublist)
  · refine List.isChain_reverse.mpr ?_
    exact List.IsChain.prefix hc hpre

/-- Only cycles are reported. The invariant: the search path follows edges and repeats no
behavior. -/
theorem isCycle_of_mem_cyclesFrom (unseen : List String) (path : List Frame)
    (hn : (path.map (·.node)).Nodup) (hc : (path.map (·.node)).IsChain fun a b => g.Edge b a)
    (hfollows : Follows g path) : ∀ c ∈ g.cyclesFrom unseen path, g.IsCycle c := by
  induction unseen, path using search_induction g with
  | stop => simp [cyclesFrom]
  | start root unseen ih =>
    rw [cyclesFrom]
    exact ih (List.nodup_singleton _) (List.isChain_singleton _) (follows_nil.enter root)
  | leave unseen node path ih =>
    rw [cyclesFrom]
    exact ih (List.nodup_cons.mp hn).2 hc.tail hfollows.leave
  | close unseen node next pending path hnext ih =>
    intro c hm
    rw [cyclesFrom_cons, if_pos hnext] at hm
    rcases List.mem_cons.mp hm with rfl | hm
    · exact isCycle_closedBy hn hc hnext hfollows.edge
    · exact ih hn hc hfollows.tail c hm
  | enter unseen node next pending path hnot hnext ih =>
    rw [cyclesFrom_cons, if_neg hnot, if_pos hnext]
    exact ih (List.nodup_cons.mpr ⟨hnot, hn⟩) (List.IsChain.cons_cons hfollows.edge hc)
      (hfollows.tail.enter next)
  | skip unseen node next pending path hnot hseen ih =>
    rw [cyclesFrom_cons, if_neg hnot, if_neg hseen]
    exact ih hn hc hfollows.tail

end Search

section Cycles

variable {g : Graph}

theorem isCycle_of_mem_cycles {c : List String} (h : c ∈ g.cycles) : g.IsCycle c :=
  isCycle_of_mem_cyclesFrom g.nodes [] List.nodup_nil List.isChain_nil follows_nil c h

theorem IsCycle.mem_nodes (hg : g.Consistent) {c : List String} (h : g.IsCycle c) {n : String}
    (hn : n ∈ c) : n ∈ g.nodes := by
  obtain ⟨b, hb, _⟩ := Relation.TransGen.head'_iff.mp (h.transGen hn)
  exact hg.source_mem hb

theorem IsCycle.ne_nil {c : List String} (h : g.IsCycle c) : c ≠ [] := by
  rintro rfl
  obtain ⟨a, b, ha, _⟩ := h.closing
  simp at ha

theorem wellFounded_of_closed (hg : g.Consistent) {closed : String → String → Prop}
    (hclosed : ∀ c ∈ g.cycles, ∀ a b, Closes c a b → closed a b) :
    WellFounded fun b a => g.Edge a b ∧ ¬ closed a b := by
  obtain ⟨all, hall, hfinished⟩ := exists_finished hg.target_mem g.nodes [] [] hclosed
    ⟨fun n hn => Or.inl hn, follows_nil, trivial, trivial⟩
  refine ⟨fun a => ?_⟩
  by_cases ha : a ∈ g.nodes
  · exact hfinished.acc a (hall a ha)
  · exact Acc.intro a fun b hb => absurd (hg.source_mem hb.1) ha

theorem not_transGen_of_wellFounded {r : String → String → Prop}
    (h : WellFounded fun b a => r a b) (n : String) : ¬ Relation.TransGen r n n := by
  intro hn
  have hwf : WellFounded (Relation.TransGen fun b a => r a b) := h.transGen
  have hloop := Relation.transGen_swap.mp hn
  exact hwf.asymmetric n n hloop hloop

theorem wellFounded_of_cycles_eq_nil (hg : g.Consistent) (h : g.cycles = []) :
    WellFounded fun b a => g.Edge a b := by
  have hwf : WellFounded fun b a => g.Edge a b ∧ ¬ False :=
    wellFounded_of_closed hg (by simp [h])
  simpa using hwf

/-- The search reports nothing exactly if no behavior depends on itself. -/
theorem cycles_eq_nil_iff (hg : g.Consistent) : g.cycles = [] ↔ g.Acyclic := by
  constructor
  · exact fun h => not_transGen_of_wellFounded (wellFounded_of_cycles_eq_nil hg h)
  · intro h
    refine List.eq_nil_iff_forall_not_mem.mpr fun c hc => ?_
    have hcycle := isCycle_of_mem_cycles hc
    obtain ⟨n, hn⟩ := List.exists_mem_of_ne_nil c hcycle.ne_nil
    exact h n (hcycle.transGen hn)

end Cycles

end BehaviorPlan.Graph
