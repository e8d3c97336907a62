import BehaviorPlan.Proofs.Graph.Memo

/-! # Chains of the roots

The searches from all roots find the first longest path of each, whether a table is used or not, as
long as it is only used on graphs without cycles. Sorting puts the longest chains first and keeps
those of one length in the order of the roots. -/
namespace BehaviorPlan.Graph

variable {g : Graph} {starts : List String}

theorem mem_nodes_of_mem_roots {n : String} (h : n ∈ g.roots) : n ∈ g.nodes :=
  (List.mem_filter.mp h).1

section Searches

/-- The greatest length of the longest paths from some behaviors. -/
def deepestOf (g : Graph) (starts : List String) : Nat :=
  (starts.map fun n => (g.chainPast [] n).length).foldr max 0

theorem deepest_eq_ok (h : ∀ n ∈ starts, n ∈ g.nodes) :
    g.deepest starts = .ok (g.deepestOf starts) := by
  induction starts with
  | nil => rfl
  | cons start starts ih =>
    obtain ⟨hstart, hstarts⟩ := List.forall_mem_cons.mp h
    exact Outcome.bind_eq_ok_iff.mpr
      ⟨_, depth_eq_ok hstart, Outcome.bind_eq_ok_iff.mpr ⟨_, ih hstarts, rfl⟩⟩

theorem deepestMemo_eq_ok (hg : g.Consistent) (hacyclic : g.Acyclic)
    (h : ∀ n ∈ starts, n ∈ g.nodes) {memo : Table Nat} (hmemo : memo.Exact g.depth) :
    g.deepestMemo starts memo = .ok (g.deepestOf starts) := by
  induction starts generalizing memo with
  | nil => rfl
  | cons start starts ih =>
    obtain ⟨hstart, hstarts⟩ := List.forall_mem_cons.mp h
    obtain ⟨d, memo', hd, hdepth, hmemo'⟩ := depthMemo_spec hg hacyclic hstart hmemo
    obtain rfl : (g.chainPast [] start).length = d :=
      Except.ok.inj ((depth_eq_ok hstart).symm.trans hdepth)
    exact Outcome.bind_eq_ok_iff.mpr ⟨_, hd, Outcome.bind_eq_ok_iff.mpr
      ⟨_, ih hstarts hmemo', rfl⟩⟩

theorem chainsMemo_eq_ok (hg : g.Consistent) (hacyclic : g.Acyclic)
    (h : ∀ n ∈ starts, n ∈ g.nodes) {memo : Table (List String)} (hmemo : memo.Exact g.chain) :
    g.chainsMemo starts memo = .ok (starts.map (g.chainPast [])) := by
  induction starts generalizing memo with
  | nil => rfl
  | cons start starts ih =>
    obtain ⟨hstart, hstarts⟩ := List.forall_mem_cons.mp h
    obtain ⟨c, memo', hc, hchain, hmemo'⟩ := chainMemo_spec hg hacyclic hstart hmemo
    obtain rfl : g.chainPast [] start = c :=
      Except.ok.inj ((chain_eq_ok hstart).symm.trans hchain)
    exact Outcome.bind_eq_ok_iff.mpr ⟨_, hc, Outcome.bind_eq_ok_iff.mpr
      ⟨_, ih hstarts hmemo', rfl⟩⟩

theorem length_cycles_eq_zero_iff (hg : g.Consistent) :
    (g.cycles.length : Int) = 0 ↔ g.Acyclic := by
  rw [← cycles_eq_nil_iff hg, Int.natCast_eq_zero, List.length_eq_zero_iff]

theorem maxDepth_eq_ok (hg : g.Consistent) :
    g.maxDepth g.cycles.length = .ok (g.deepestOf g.roots) := by
  unfold maxDepth
  split
  · rename_i hzero
    exact deepestMemo_eq_ok hg ((length_cycles_eq_zero_iff hg).mp hzero)
      (fun _ => mem_nodes_of_mem_roots) Table.exact_empty
  · exact deepest_eq_ok fun _ => mem_nodes_of_mem_roots

def sortedChains (g : Graph) : List (List String) :=
  (g.roots.map (g.chainPast [])).mergeSort fun a b => decide (b.length ≤ a.length)

theorem longestChains_eq_ok (hg : g.Consistent) (limit : Int) :
    g.longestChains g.cycles.length limit = .ok (g.sortedChains.take limit.toNat) := by
  unfold longestChains
  split
  · rename_i hzero
    exact Outcome.bind_eq_ok_iff.mpr ⟨_, chainsMemo_eq_ok hg
      ((length_cycles_eq_zero_iff hg).mp hzero) (fun _ => mem_nodes_of_mem_roots)
      Table.exact_empty, rfl⟩
  · exact Outcome.bind_eq_ok_iff.mpr ⟨_, Outcome.mapM_eq_ok_map fun n hn =>
      chain_eq_ok (mem_nodes_of_mem_roots hn), rfl⟩

end Searches

section Sorting

/-- The same chains with the longest first; those of one length stand as they did. -/
structure LongestFirst (all sorted : List (List String)) : Prop where
  perm : sorted.Perm all
  descending : sorted.Pairwise fun a b => b.length ≤ a.length
  stable : ∀ n, sorted.filter (·.length = n) = all.filter (·.length = n)

theorem longestFirst_mergeSort (all : List (List String)) :
    LongestFirst all (all.mergeSort fun a b => decide (b.length ≤ a.length)) := by
  have htrans := decide_size_trans (α := List String) List.length
  have htotal := decide_size_total (α := List String) List.length
  have hperm := List.mergeSort_perm all fun a b => decide (b.length ≤ a.length)
  refine ⟨hperm, by simpa using List.pairwise_mergeSort htrans htotal all, fun n => ?_⟩
  -- chains of one length are sorted already, so the sort keeps their list as a sublist
  have hpairwise : (all.filter (·.length = n)).Pairwise fun a b => decide (b.length ≤ a.length) =
      true := by
    refine List.pairwise_of_forall_mem_list fun a ha b hb => ?_
    simp only [List.mem_filter, decide_eq_true_eq] at ha hb ⊢
    omega
  have hsub := (List.sublist_mergeSort htrans htotal hpairwise List.filter_sublist).filter
    (·.length = n)
  rw [List.filter_filter] at hsub
  simp only [Bool.and_self] at hsub
  exact (hsub.eq_of_length (hperm.filter _).length_eq.symm).symm

theorem longestFirst_sortedChains :
    LongestFirst (g.roots.map (g.chainPast [])) g.sortedChains :=
  longestFirst_mergeSort _

theorem deepestOf_le_iff {k : Nat} :
    g.deepestOf starts ≤ k ↔ ∀ n ∈ starts, (g.chainPast [] n).length ≤ k := by
  induction starts with
  | nil => simp [deepestOf]
  | cons start starts ih =>
    rw [List.forall_mem_cons, ← ih]
    exact max_le_iff

theorem deepestOf_roots_eq :
    g.deepestOf g.roots = (g.sortedChains.head?.map List.length).getD 0 := by
  obtain ⟨hperm, hdescending, -⟩ := longestFirst_sortedChains (g := g)
  have hmem : ∀ c, c ∈ g.sortedChains ↔ ∃ n ∈ g.roots, g.chainPast [] n = c := fun c =>
    hperm.mem_iff.trans List.mem_map
  cases hsorted : g.sortedChains with
  | nil =>
    rw [hsorted] at hmem
    refine Nat.le_zero.mp (deepestOf_le_iff.mpr fun n hn => ?_)
    exact absurd ((hmem _).mpr ⟨n, hn, rfl⟩) List.not_mem_nil
  | cons first rest =>
    rw [hsorted] at hmem hdescending
    refine le_antisymm (deepestOf_le_iff.mpr fun n hn => ?_) ?_
    · rcases List.mem_cons.mp ((hmem _).mpr ⟨n, hn, rfl⟩) with heq | hrest
      · exact (congrArg List.length heq).le
      · exact (List.pairwise_cons.mp hdescending).1 _ hrest
    · obtain ⟨n, hn, rfl⟩ := (hmem first).mp (List.mem_cons_self ..)
      exact deepestOf_le_iff.mp le_rfl n hn

end Sorting

section Directed

/-- Behaviors each of which depends on the next. -/
structure DirectedPath (g : Graph) (path : List String) : Prop where
  mem_nodes : ∀ n ∈ path, n ∈ g.nodes
  chain : path.IsChain g.Edge

variable {path : List String} {n : String}

theorem DirectedPath.nodup (hacyclic : g.Acyclic) (h : g.DirectedPath path) : path.Nodup := by
  have hchain := h.chain.imp fun _ _ => Relation.TransGen.single
  refine (List.isChain_iff_pairwise.mp hchain).imp fun hab heq => ?_
  exact hacyclic _ (heq ▸ hab)

/-- Read backwards, a directed path on a graph without cycles is a simple path. -/
theorem DirectedPath.simplePath_reverse (hg : g.Consistent) (hacyclic : g.Acyclic)
    (h : g.DirectedPath path) (hlast : path.getLast? = some n) : g.SimplePath n path.reverse where
  head := by rw [List.head?_reverse, hlast]
  chain := List.isChain_reverse.mpr (h.chain.imp fun _ _ => hg.mem_dependents_iff.mpr)
  nodup := List.nodup_reverse.mpr (h.nodup hacyclic)

theorem SimplePath.directedPath_reverse (hg : g.Consistent) (hn : n ∈ g.nodes)
    (h : g.SimplePath n path) : g.DirectedPath path.reverse where
  mem_nodes := fun m hm => by
    refine h.chain.induction (· ∈ g.nodes) path
      (fun _ _ hedge _ => mem_nodes_of_mem_dependents hg hedge) (fun hne => ?_) m
      (List.mem_reverse.mp hm)
    rwa [List.head_of_head?_eq_some h.head]
  chain := List.isChain_reverse.mpr (h.chain.imp fun _ _ => hg.mem_dependents_iff.mp)

theorem exists_directedPath_root (hg : g.Consistent) (hacyclic : g.Acyclic) (hn : n ∈ g.nodes) :
    ∃ rest root, g.DirectedPath (n :: rest) ∧ (n :: rest).getLast? = some root ∧
      root ∈ g.roots := by
  have hwf := wellFounded_of_cycles_eq_nil hg ((cycles_eq_nil_iff hg).mpr hacyclic)
  induction n using hwf.induction with
  | _ n ih =>
    cases hdeps : g.dependencies n with
    | nil =>
      have hroot : n ∈ g.roots := List.mem_filter.mpr ⟨hn, by rw [hdeps]; rfl⟩
      exact ⟨[], n, ⟨by simpa using hn, List.isChain_singleton n⟩, rfl, hroot⟩
    | cons m _ =>
      have hedge : g.Edge n m := by
        rw [Edge, hdeps]
        exact List.mem_cons_self ..
      obtain ⟨rest, root, hpath, hlast, hroot⟩ := ih m hedge (hg.target_mem hedge)
      exact ⟨m :: rest, root, ⟨List.forall_mem_cons.mpr ⟨hn, hpath.mem_nodes⟩,
        List.isChain_cons_cons.mpr ⟨hedge, hpath.chain⟩⟩, hlast, hroot⟩

/-- A directed path goes on to a root, so none is longer than the deepest root is deep. -/
theorem DirectedPath.length_le (hg : g.Consistent) (hacyclic : g.Acyclic)
    (h : g.DirectedPath path) : path.length ≤ g.deepestOf g.roots := by
  rcases List.eq_nil_or_concat path with rfl | ⟨front, n, rfl⟩
  · exact Nat.zero_le _
  · rw [List.concat_eq_append] at h ⊢
    obtain ⟨rest, root, hrest, hlast, hroot⟩ :=
      exists_directedPath_root hg hacyclic (h.mem_nodes n (by simp))
    have hall : g.DirectedPath (front ++ n :: rest) :=
      { mem_nodes := by
          intro m hm
          rcases List.mem_append.mp hm with hm | hm
          · exact h.mem_nodes m (List.mem_append_left _ hm)
          · exact hrest.mem_nodes m hm
        chain := List.isChain_split.mpr ⟨h.chain, hrest.chain⟩ }
    have hsimple := hall.simplePath_reverse hg hacyclic (n := root) (by
      rw [List.getLast?_append, hlast, Option.some_or])
    calc (front ++ [n]).length ≤ (front ++ n :: rest).reverse.length := by simp
      _ ≤ (g.chainPast [] root).length := (firstLongest_chainPast hg root).length_le _ hsimple
      _ ≤ g.deepestOf g.roots := deepestOf_le_iff.mp le_rfl root hroot

theorem exists_directedPath_deepestOf (hg : g.Consistent) :
    ∃ path, g.DirectedPath path ∧ path.length = g.deepestOf g.roots := by
  rw [deepestOf_roots_eq]
  cases hsorted : g.sortedChains with
  | nil => exact ⟨[], ⟨by simp, List.isChain_nil⟩, rfl⟩
  | cons first rest =>
    have hfirst : first ∈ g.sortedChains := hsorted ▸ List.mem_cons_self ..
    obtain ⟨n, hn, rfl⟩ := List.mem_map.mp (longestFirst_sortedChains.perm.mem_iff.mp hfirst)
    exact ⟨_, (firstLongest_chainPast hg n).directedPath_reverse hg (mem_nodes_of_mem_roots hn),
      List.length_reverse⟩

end Directed

end BehaviorPlan.Graph
