import BehaviorPlan.Proofs.Graph.Path

/-! # The walk along all simple paths

Both searches without a table come to what the recursion over branches says: the one keeps its
path, the other its length. So on every sound graph, with cycles or without, the chain is the first
longest simple path and the depth counts its behaviors. -/
namespace BehaviorPlan.Graph

variable {g : Graph} {branch pending : List String} {node next : String}

section Chain

variable {longest : List String} {path : List Frame}

/-- The longest path after the pending dependents of the last behavior on a branch are visited. The
branch is given from its end to its start. -/
def visited (g : Graph) (branch pending longest : List String) : List String :=
  pending.foldl (fun longest next =>
    if g.Free branch next then longer longest (branch.reverse ++ g.chainPast branch next)
    else longest) longest

def walked (g : Graph) : List Frame → List String → List String
  | [], longest => longest
  | f :: path, longest =>
    walked g path (g.visited (f.node :: trail path) f.pending longest)

theorem foldl_longer_append {p : String → Prop} [DecidablePred p] {f : String → List String}
    (longest start best xs : List String) :
    xs.foldl (fun longest x => if p x then longer longest (start ++ f x) else longest)
        (longer longest (start ++ best)) =
      longer longest (start ++ xs.foldl (fun best x => if p x then longer best (f x) else best)
        best) := by
  induction xs generalizing best with
  | nil => rfl
  | cons x xs ih =>
    rw [List.foldl_cons, List.foldl_cons]
    split
    · rw [longer_assoc, longer_append, ih]
    · exact ih best

theorem visited_dependents (branch longest : List String) (next : String) :
    g.visited (next :: branch) (g.dependents next) (longer longest (next :: branch).reverse) =
      longer longest (branch.reverse ++ g.chainPast branch next) := by
  have hfold := foldl_longer_append (p := g.Free (next :: branch))
    (f := g.chainPast (next :: branch)) longest (next :: branch).reverse [] (g.dependents next)
  rw [List.append_nil] at hfold
  rw [visited, hfold, chainPast_eq, List.reverse_cons, List.append_assoc, List.singleton_append]

theorem chainFrom_eq_walked (path : List Frame) (longest : List String) :
    g.chainFrom path longest = g.walked path longest := by
  induction path, longest using chainFrom.induct g with
  | case1 longest => rw [chainFrom, walked]
  | case2 longest node path ih => rw [chainFrom, ih, walked, visited, List.foldl_nil]
  | case3 longest node next pending path hfree ih =>
    rw [chainFrom, dif_pos hfree, ih, walked, trail_cons, visited_dependents, walked, walked,
      visited, visited, List.foldl_cons, if_pos hfree]
  | case4 longest node next pending path hnot ih =>
    rw [chainFrom, dif_neg hnot, ih, walked, walked, visited, visited, List.foldl_cons, if_neg hnot]

theorem chain_eq_ok (h : node ∈ g.nodes) : g.chain node = .ok (g.chainPast [] node) := by
  have hvisited := visited_dependents (g := g) [] [] node
  have hpos : 0 < (g.chainPast [] node).length := List.length_pos_iff.mpr (chainPast_ne_nil _ _)
  rw [chain, if_pos h, chainFrom_eq_walked]
  simpa [walked, longer, hpos] using hvisited

end Chain

section Depth

variable {depth d best : Nat} {path : List Level}

/-- The depth of the deepest dependent after the pending ones are visited. -/
def deepestPast (g : Graph) (branch pending : List String) (best : Nat) : Nat :=
  pending.foldl (fun best next =>
    if g.Free branch next then max best (g.chainPast branch next).length else best) best

/-- What the levels have still to come to when the first of them has met a dependent that is `d`
deep: each one to the length of its longest path, and the last one to the depth in question. -/
def Measures (g : Graph) (depth : Nat) : Nat → List Level → Prop
  | d, [] => d = depth
  | d, l :: path =>
    (g.chainPast (trail (frames path)) l.node).length =
        1 + g.deepestPast (l.node :: trail (frames path)) l.pending (max l.best d) ∧
      Measures g depth (g.chainPast (trail (frames path)) l.node).length path

theorem length_foldl_longer {p : String → Prop} [DecidablePred p] {f : String → List String}
    (best : List String) (xs : List String) :
    (xs.foldl (fun best x => if p x then longer best (f x) else best) best).length =
      xs.foldl (fun best x => if p x then max best (f x).length else best) best.length := by
  induction xs generalizing best with
  | nil => rfl
  | cons x xs ih =>
    rw [List.foldl_cons, List.foldl_cons]
    split
    · rw [ih, length_longer]
    · exact ih best

theorem length_chainPast (branch : List String) (node : String) :
    (g.chainPast branch node).length =
      1 + g.deepestPast (node :: branch) (g.dependents node) 0 := by
  rw [chainPast_eq, List.length_cons, length_foldl_longer, Nat.add_comm]
  rfl

theorem deepestPast_cons (branch pending : List String) (next : String) (best : Nat) :
    g.deepestPast branch (next :: pending) best = g.deepestPast branch pending
      (if g.Free branch next then max best (g.chainPast branch next).length else best) := rfl

theorem Measures.leave (h : g.Measures depth 0 (⟨⟨node, []⟩, best⟩ :: path)) :
    (g.chainPast (trail (frames path)) node).length = 1 + best ∧
      (path = [] → 1 + best = depth) ∧ g.Measures depth (1 + best) path := by
  obtain ⟨hlength, hpath⟩ := h
  have hbest : (g.chainPast (trail (frames path)) node).length = 1 + best := by
    simpa [deepestPast] using hlength
  rw [hbest] at hpath
  refine ⟨hbest, fun hnil => ?_, hpath⟩
  subst hnil
  exact hpath

theorem Measures.raise (hne : path ≠ []) (h : g.Measures depth d path) :
    g.Measures depth 0 (raise d path) := by
  cases path with
  | nil => exact absurd rfl hne
  | cons l path => exact ⟨by simpa [frames] using h.1, h.2⟩

theorem Measures.skip (h : g.Measures depth 0 (⟨⟨node, next :: pending⟩, best⟩ :: path))
    (hnot : ¬ g.Free (node :: trail (frames path)) next) :
    g.Measures depth 0 (⟨⟨node, pending⟩, best⟩ :: path) := by
  obtain ⟨hlength, hpath⟩ := h
  rw [deepestPast_cons, if_neg hnot] at hlength
  exact ⟨hlength, hpath⟩

theorem Measures.meet (h : g.Measures depth 0 (⟨⟨node, next :: pending⟩, best⟩ :: path))
    (hfree : g.Free (node :: trail (frames path)) next) :
    g.Measures depth (g.chainPast (node :: trail (frames path)) next).length
      (⟨⟨node, pending⟩, best⟩ :: path) := by
  obtain ⟨hlength, hpath⟩ := h
  rw [deepestPast_cons, if_pos hfree, Nat.max_eq_left (Nat.zero_le best)] at hlength
  exact ⟨hlength, hpath⟩

theorem Measures.known (h : g.Measures depth 0 (⟨⟨node, next :: pending⟩, best⟩ :: path))
    (hfree : g.Free (node :: trail (frames path)) next)
    (hd : d = (g.chainPast (node :: trail (frames path)) next).length) :
    g.Measures depth 0 (⟨⟨node, pending⟩, max best d⟩ :: path) :=
  hd ▸ (h.meet hfree).raise (List.cons_ne_nil _ _)

theorem Measures.enter (h : g.Measures depth 0 (⟨⟨node, next :: pending⟩, best⟩ :: path))
    (hfree : g.Free (node :: trail (frames path)) next) :
    g.Measures depth 0 (g.level next :: ⟨⟨node, pending⟩, best⟩ :: path) :=
  ⟨length_chainPast .., h.meet hfree⟩

theorem measures_level (start : String) :
    g.Measures (g.chainPast [] start).length 0 [g.level start] :=
  ⟨length_chainPast .., rfl⟩

theorem raise_ne_nil (hne : path ≠ []) : Graph.raise d path ≠ [] := by
  cases path with
  | nil => exact absurd rfl hne
  | cons l path => exact List.cons_ne_nil _ _

theorem depthFrom_empty (path : List Level) (hne : path ≠ []) (h : g.Measures depth 0 path)
    (d : Nat) : (g.depthFrom false path d .empty).1 = depth := by
  generalize hempty : (Table.empty : Table Nat) = memo
  induction path, d, memo using depthFrom.induct g false with
  | case1 => exact absurd rfl hne
  | case2 d memo node best path ih =>
    obtain ⟨-, hlast, hpath⟩ := h.leave
    rw [depthFrom]
    by_cases hnil : path = []
    · subst hnil
      rw [Graph.raise, depthFrom]
      exact hlast rfl
    · exact ih (raise_ne_nil hnil) (hpath.raise hnil) hempty
  | case3 d memo node next pending best path hfree d' hd ih =>
    simp [← hempty] at hd
  | case4 d memo node next pending best path hfree hnone ih =>
    rw [depthFrom, dif_pos hfree]
    simp only [hnone]
    exact ih (List.cons_ne_nil _ _) (h.enter hfree) hempty
  | case5 d memo node next pending best path hnot ih =>
    rw [depthFrom, dif_neg hnot]
    exact ih (List.cons_ne_nil _ _) (h.skip hnot) hempty

theorem depth_eq_ok (h : node ∈ g.nodes) : g.depth node = .ok (g.chainPast [] node).length := by
  rw [depth, if_pos h, depthFrom_empty _ (List.cons_ne_nil _ _) (measures_level node)]

end Depth

/-- On every sound graph, with cycles or without, the chain from a behavior is the first longest
simple path, and the depth is its length. -/
theorem firstLongest_chain {start : String} (hg : Checked.defect? g = none)
    (hstart : start ∈ g.nodes) :
    ∃ path, g.chain start = .ok path ∧ g.FirstLongest start path ∧
      g.depth start = .ok path.length :=
  ⟨g.chainPast [] start, chain_eq_ok hstart, firstLongest_chainPast (consistent_of_sound hg) start,
    depth_eq_ok hstart⟩

/-- `B` and `C` depend on each other and on `A`, which depends on `C`; `A` lists `C` before `B`, and
twice. -/
def twoLoops : Graph where
  nodes := ["A", "B", "C"]
  forward := ⟨[("A", ["C"]), ("B", ["A", "C"]), ("C", ["A", "B"])]⟩
  reverse := ⟨[("A", ["C", "B", "C"]), ("B", ["C"]), ("C", ["B", "A"])]⟩

theorem firstLongest_twoLoops : twoLoops.chain "A" = .ok ["A", "C", "B"] ∧
    twoLoops.FirstLongest "A" ["A", "C", "B"] ∧ twoLoops.depth "A" = .ok 3 := by
  have hsound : Checked.defect? twoLoops = none := by decide
  have hstart : "A" ∈ twoLoops.nodes := by decide
  obtain ⟨path, hchain, hfirst, hdepth⟩ := firstLongest_chain hsound hstart
  have hpath : twoLoops.chain "A" = .ok ["A", "C", "B"] := by decide +kernel
  obtain rfl := Except.ok.inj (hpath.symm.trans hchain)
  exact ⟨hchain, hfirst, hdepth⟩

end BehaviorPlan.Graph
