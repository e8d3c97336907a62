import Mathlib.Data.List.Chain
import Mathlib.Data.List.Lex
import BehaviorPlan.Graph.Chain
import BehaviorPlan.Proofs.Graph.Edges

/-! # Simple paths through dependents

A simple path leads from a behavior to one of its dependents and so on, and meets no behavior twice.
The recursion `chainPast` takes the longest one that keeps off a branch; of several it takes the
first, when paths are compared like words by the places at which they turn among dependents. -/
namespace BehaviorPlan.Graph

variable {g : Graph}

structure SimplePath (g : Graph) (start : String) (path : List String) : Prop where
  head : path.head? = some start
  chain : path.IsChain fun a b => b ∈ g.dependents a
  nodup : path.Nodup

/-- Where each behavior of a path stands among the dependents of the one before. -/
def turns (g : Graph) : List String → List Nat
  | a :: b :: path => (g.dependents a).idxOf b :: turns g (b :: path)
  | _ => []

/-- A simple path of greatest length, and of these the first one in depth-first order. -/
structure FirstLongest (g : Graph) (start : String) (path : List String) : Prop extends
    SimplePath g start path where
  length_le : ∀ other, g.SimplePath start other → other.length ≤ path.length
  turns_lt : ∀ other, g.SimplePath start other → other.length = path.length → other ≠ path →
    g.turns path < g.turns other

section Longer

variable {a b c : List String}

theorem length_longer : (longer a b).length = max a.length b.length := by
  unfold longer
  split <;> omega

theorem longer_assoc : longer (longer a b) c = longer a (longer b c) := by
  unfold longer
  split_ifs <;> first | rfl | omega

theorem longer_append (start : List String) :
    longer (start ++ a) (start ++ b) = start ++ longer a b := by
  simp only [longer, List.length_append, Nat.add_lt_add_iff_left]
  split <;> rfl

variable {p : String → Prop} {f : String → List String}

/-- The choice with the longest path; of several, the one that is listed first. -/
structure Foremost (xs : List String) (p : String → Prop) (f : String → List String)
    (m : String) : Prop where
  mem : m ∈ xs
  holds : p m
  le : ∀ x ∈ xs, p x → (f x).length < (f m).length ∨
    (f x).length = (f m).length ∧ xs.idxOf m ≤ xs.idxOf x

theorem Foremost.concat {xs : List String} {m x : String} (h : Foremost xs p f m)
    (hx : p x → (f x).length ≤ (f m).length) : Foremost (xs ++ [x]) p f m where
  mem := List.mem_append_left _ h.mem
  holds := h.holds
  le y hy hp := by
    rw [List.idxOf_append_of_mem h.mem]
    by_cases hmem : y ∈ xs
    · rw [List.idxOf_append_of_mem hmem]
      exact h.le y hmem hp
    · obtain rfl : y = x := by simpa [hmem] using hy
      rw [List.idxOf_append_of_notMem hmem]
      exact (hx hp).lt_or_eq.imp_right fun heq =>
        ⟨heq, (List.idxOf_le_length).trans (Nat.le_add_right ..)⟩

theorem foremost_concat {xs : List String} {x : String} (hp : p x)
    (hlt : ∀ y ∈ xs, p y → (f y).length < (f x).length) : Foremost (xs ++ [x]) p f x where
  mem := by simp
  holds := hp
  le y hy hpy := by
    rcases List.mem_append.mp hy with hmem | hmem
    · exact Or.inl (hlt y hmem hpy)
    · rw [List.mem_singleton.mp hmem]
      exact Or.inr ⟨rfl, Nat.le_refl _⟩

theorem foldl_longer [DecidablePred p] (hne : ∀ x, f x ≠ []) (xs : List String) :
    (xs.foldl (fun best x => if p x then longer best (f x) else best) [] = [] ∧ ∀ x ∈ xs, ¬ p x) ∨
      ∃ m, Foremost xs p f m ∧
        xs.foldl (fun best x => if p x then longer best (f x) else best) [] = f m := by
  induction xs using List.reverseRecOn with
  | nil => simp
  | append_singleton xs x ih =>
    rw [List.foldl_append, List.foldl_cons, List.foldl_nil]
    by_cases hp : p x
    · rw [if_pos hp]
      rcases ih with ⟨hnil, hnone⟩ | ⟨m, hm, hbest⟩
      · have hpos : 0 < (f x).length := List.length_pos_iff.mpr (hne x)
        refine Or.inr ⟨x, foremost_concat hp fun y hy hpy => absurd hpy (hnone y hy), ?_⟩
        rw [hnil]
        exact if_pos hpos
      · rw [hbest, longer]
        split
        · rename_i hlt
          refine Or.inr ⟨x, foremost_concat hp fun y hy hpy => ?_, rfl⟩
          rcases hm.le y hy hpy with h | ⟨h, -⟩ <;> omega
        · rename_i hle
          exact Or.inr ⟨m, hm.concat fun _ => Nat.le_of_not_lt hle, rfl⟩
    · rw [if_neg hp]
      rcases ih with ⟨hnil, hnone⟩ | ⟨m, hm, hbest⟩
      · refine Or.inl ⟨hnil, fun y hy => ?_⟩
        rcases List.mem_append.mp hy with hmem | hmem
        · exact hnone y hmem
        · rwa [List.mem_singleton.mp hmem]
      · exact Or.inr ⟨m, hm.concat fun h => absurd h hp, hbest⟩

end Longer

section Past

/-- The longest path from a behavior that keeps off the branch. -/
def chainPast (g : Graph) (branch : List String) (node : String) : List String :=
  node :: (g.dependents node).foldl (fun best next =>
    if _h : g.Free (node :: branch) next then
      longer best (chainPast g (node :: branch) next)
    else best) []
termination_by g.freeCount (node :: branch)
decreasing_by exact freeCount_lt _h

theorem chainPast_eq (branch : List String) (node : String) :
    g.chainPast branch node = node :: (g.dependents node).foldl (fun best next =>
      if g.Free (node :: branch) next then longer best (g.chainPast (node :: branch) next)
      else best) [] := by
  rw [chainPast]
  simp only [dite_eq_ite]

theorem chainPast_ne_nil (branch : List String) (node : String) : g.chainPast branch node ≠ [] := by
  rw [chainPast_eq]
  exact List.cons_ne_nil _ _

/-- A path from a behavior that keeps off the branch and meets no behavior twice. -/
inductive PathPast (g : Graph) : List String → String → List String → Prop
  | stop (branch : List String) (node : String) : PathPast g branch node [node]
  | step {branch : List String} {node next : String} {path : List String}
      (hmem : next ∈ g.dependents node) (hfree : g.Free (node :: branch) next)
      (hpath : PathPast g (node :: branch) next path) : PathPast g branch node (node :: path)

theorem PathPast.exists_eq_cons {branch path : List String} {node : String}
    (h : g.PathPast branch node path) : ∃ rest, path = node :: rest := by
  cases h with
  | stop => exact ⟨[], rfl⟩
  | step _ _ _ => exact ⟨_, rfl⟩

theorem turns_cons {branch path : List String} {node next : String}
    (h : g.PathPast branch next path) :
    g.turns (node :: path) = (g.dependents node).idxOf next :: g.turns path := by
  obtain ⟨rest, rfl⟩ := h.exists_eq_cons
  rfl

/-- The second path is shorter than the first, or as long and later in depth-first order. -/
def Precedes (g : Graph) (path other : List String) : Prop :=
  other.length < path.length ∨ other.length = path.length ∧ g.turns path < g.turns other

theorem Precedes.length_le {p q : List String} (h : g.Precedes p q) : q.length ≤ p.length := by
  rcases h with h | ⟨h, -⟩ <;> omega

theorem precedes_of_idxOf_lt {branch p q : List String} {node m next : String}
    (hp : g.PathPast branch m p) (hq : g.PathPast branch next q) (hlength : q.length = p.length)
    (hlt : (g.dependents node).idxOf m < (g.dependents node).idxOf next) :
    g.Precedes (node :: p) (node :: q) := by
  refine Or.inr ⟨congrArg Nat.succ hlength, ?_⟩
  rw [turns_cons hp, turns_cons hq]
  exact List.Lex.rel hlt

theorem Precedes.cons {branch p q : List String} {node next : String}
    (hp : g.PathPast branch next p) (hq : g.PathPast branch next q) (h : g.Precedes p q) :
    g.Precedes (node :: p) (node :: q) := by
  refine h.imp Nat.succ_lt_succ fun ⟨hlength, hlt⟩ => ⟨congrArg Nat.succ hlength, ?_⟩
  rw [turns_cons hp, turns_cons hq]
  exact List.Lex.cons hlt

theorem Foremost.precedes {branch path : List String} {node m next : String}
    (hm : Foremost (g.dependents node) (g.Free (node :: branch)) (g.chainPast (node :: branch)) m)
    (hfirst : g.PathPast (node :: branch) m (g.chainPast (node :: branch) m))
    (hmem : next ∈ g.dependents node) (hfree : g.Free (node :: branch) next)
    (hpath : g.PathPast (node :: branch) next path)
    (hle : path.length ≤ (g.chainPast (node :: branch) next).length) (hne : next ≠ m) :
    g.Precedes (node :: g.chainPast (node :: branch) m) (node :: path) := by
  rcases hm.le next hmem hfree with hlt | ⟨heq, hidx⟩
  · exact Or.inl (Nat.succ_lt_succ (hle.trans_lt hlt))
  · rcases (heq ▸ hle).lt_or_eq with hlt | hlength
    · exact Or.inl (Nat.succ_lt_succ hlt)
    · have hidx_ne : (g.dependents node).idxOf m ≠ (g.dependents node).idxOf next :=
        fun h => hne ((List.idxOf_inj hm.mem).mp h).symm
      exact precedes_of_idxOf_lt hfirst hpath hlength (hidx.lt_of_ne hidx_ne)

/-- The recursion finds a path, and it precedes all others. -/
theorem pathPast_chainPast (branch : List String) (node : String) :
    g.PathPast branch node (g.chainPast branch node) ∧
      ∀ other, g.PathPast branch node other → other ≠ g.chainPast branch node →
        g.Precedes (g.chainPast branch node) other := by
  induction branch, node using chainPast.induct g with
  | case1 branch node ih =>
    have hfold := foldl_longer (p := g.Free (node :: branch)) (f := g.chainPast (node :: branch))
      (fun x => chainPast_ne_nil _ x) (g.dependents node)
    rw [chainPast_eq]
    rcases hfold with ⟨hnil, hnone⟩ | ⟨m, hm, hbest⟩
    · rw [hnil]
      refine ⟨.stop .., fun other hother hne => ?_⟩
      cases hother with
      | stop => exact absurd rfl hne
      | step hmem hfree _ => exact absurd hfree (hnone _ hmem)
    · rw [hbest]
      have hpath := (ih m hm.holds).1
      refine ⟨.step hm.mem hm.holds hpath, fun other hother hne => ?_⟩
      cases hother with
      | stop =>
        have hpos := List.length_pos_iff.mpr (g.chainPast_ne_nil (node :: branch) m)
        exact Or.inl (Nat.succ_lt_succ hpos)
      | @step _ _ next path hmem hfree hother =>
        -- Through the foremost dependent the rest is compared, through another one the turn is.
        by_cases hnext : next = m
        · subst hnext
          have hpne : path ≠ g.chainPast (node :: branch) next := fun h => hne (h ▸ rfl)
          exact ((ih next hfree).2 path hother hpne).cons hpath hother
        · have hle : path.length ≤ (g.chainPast (node :: branch) next).length := by
            by_cases hp : path = g.chainPast (node :: branch) next
            · rw [hp]
            · exact ((ih next hfree).2 path hother hp).length_le
          exact hm.precedes hpath hmem hfree hother hle hnext

end Past

section Simple

theorem mem_nodes_of_mem_dependents (hg : g.Consistent) {a b : String} (h : a ∈ g.dependents b) :
    a ∈ g.nodes :=
  hg.source_mem (hg.mem_dependents_iff.mp h)

theorem PathPast.simplePath {branch path : List String} {node : String}
    (h : g.PathPast branch node path) :
    g.SimplePath node path ∧ ∀ n ∈ path.tail, n ∉ branch := by
  induction h with
  | stop => exact ⟨⟨rfl, List.isChain_singleton _, List.nodup_singleton _⟩, by simp⟩
  | @step branch node next path hmem hfree hpath ih =>
    obtain ⟨hsimple, htail⟩ := ih
    obtain ⟨rest, rfl⟩ := hpath.exists_eq_cons
    have hnot : ∀ n ∈ next :: rest, n ∉ node :: branch := by
      intro n hn
      rcases List.mem_cons.mp hn with rfl | hn
      · exact hfree.2
      · exact htail n hn
    refine ⟨⟨rfl, List.IsChain.cons_cons hmem hsimple.chain, ?_⟩, fun n hn hb => ?_⟩
    · exact List.nodup_cons.mpr ⟨fun h => hnot node h (List.mem_cons_self ..), hsimple.nodup⟩
    · exact hnot n hn (List.mem_cons_of_mem _ hb)

theorem pathPast_of_simplePath (hg : g.Consistent) {branch path : List String} {node : String}
    (h : g.SimplePath node path) (hbranch : ∀ n ∈ path.tail, n ∉ branch) :
    g.PathPast branch node path := by
  induction path generalizing branch node with
  | nil => simpa using h.head
  | cons a path ih =>
    obtain rfl : a = node := by simpa using h.head
    obtain ⟨hnot, hnodup⟩ := List.nodup_cons.mp h.nodup
    cases path with
    | nil => exact .stop ..
    | cons next rest =>
      obtain ⟨hmem, hchain⟩ := List.isChain_cons_cons.mp h.chain
      have hoff : ∀ n ∈ next :: rest, n ∉ a :: branch := fun n hn hb =>
        (List.mem_cons.mp hb).elim (fun he => hnot (he ▸ hn)) (hbranch n hn)
      refine .step hmem ⟨mem_nodes_of_mem_dependents hg hmem, hoff next (List.mem_cons_self ..)⟩ ?_
      exact ih ⟨rfl, hchain, hnodup⟩ fun n hn => hoff n (List.mem_cons_of_mem _ hn)

theorem firstLongest_chainPast (hg : g.Consistent) (start : String) :
    g.FirstLongest start (g.chainPast [] start) := by
  obtain ⟨hpath, hprecedes⟩ := g.pathPast_chainPast [] start
  have hother : ∀ other, g.SimplePath start other → other ≠ g.chainPast [] start →
      g.Precedes (g.chainPast [] start) other := fun other h =>
    hprecedes other (pathPast_of_simplePath hg h fun _ _ => List.not_mem_nil)
  refine ⟨hpath.simplePath.1, fun other h => ?_, fun other h hlength hne => ?_⟩
  · by_cases hne : other = g.chainPast [] start
    · rw [hne]
    · rcases hother other h hne with hlt | ⟨heq, -⟩ <;> omega
  · rcases hother other h hne with hlt | ⟨-, hlt⟩
    · omega
    · exact hlt

end Simple

end BehaviorPlan.Graph
