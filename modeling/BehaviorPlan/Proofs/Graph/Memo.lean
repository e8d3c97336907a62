import Mathlib.Order.WellFoundedSet
import BehaviorPlan.Proofs.Graph.Chain
import BehaviorPlan.Proofs.Graph.Cycles

/-! # Remembered depths and chains

On a graph without cycles no branch bars the way from its end, so what a behavior comes to does not
depend on how it was reached. Both searches with a table then end, find what the searches without
one find, and leave only such results in the table, whatever calls it has served before. -/
namespace BehaviorPlan

/-- Every entry of the table is what the search finds. -/
def Table.Exact {α : Type} (search : String → Outcome α) (t : Table α) : Prop :=
  ∀ e ∈ t.entries, search e.1 = .ok e.2

namespace Table

variable {α : Type} {search : String → Outcome α} {t : Table α} {key : String} {value : α}

theorem exact_empty : Exact search empty := fun _ he => absurd he List.not_mem_nil

theorem Exact.get? (h : Exact search t) (hget : t.get? key = some value) :
    search key = .ok value :=
  h _ (mem_entries_of_get? hget)

theorem Exact.insert (h : Exact search t) (hvalue : search key = .ok value) :
    Exact search (t.insert key value) := by
  intro e he
  rcases mem_entries_insert he with rfl | he
  · exact hvalue
  · exact h e he

end Table

namespace Graph

variable {g : Graph} {node next : String} {branch : List String}

section Acyclic

theorem wellFounded_dependents (hg : g.Consistent) (hacyclic : g.Acyclic) :
    WellFounded fun m n => m ∈ g.dependents n := by
  have horder : IsStrictOrder String (Relation.TransGen g.Edge) :=
    { irrefl := hacyclic, trans := fun _ _ _ => Relation.TransGen.trans }
  have hwf := (List.finite_toSet g.nodes).wellFoundedOn (r := Relation.TransGen g.Edge)
  refine ⟨fun n => Acc.intro n fun m hm => ?_⟩
  refine hwf.induction (mem_nodes_of_mem_dependents hg hm) fun m _ ih => Acc.intro m fun k hk => ?_
  exact ih k (mem_nodes_of_mem_dependents hg hk) (.single (hg.mem_dependents_iff.mp hk))

/-- A branch of behaviors on which a behavior depends bars no way from it to its dependents. -/
theorem free_of_mem_dependents (hg : g.Consistent) (hacyclic : g.Acyclic)
    (hbranch : ∀ b ∈ branch, Relation.TransGen g.Edge node b) (hnext : next ∈ g.dependents node) :
    g.Free (node :: branch) next ∧ ∀ b ∈ node :: branch, Relation.TransGen g.Edge next b := by
  have hedge : g.Edge next node := hg.mem_dependents_iff.mp hnext
  have hall : ∀ b ∈ node :: branch, Relation.TransGen g.Edge next b := by
    intro b hb
    rcases List.mem_cons.mp hb with rfl | hb
    · exact .single hedge
    · exact (hbranch b hb).head hedge
  exact ⟨⟨hg.source_mem hedge, fun hmem => hacyclic next (hall next hmem)⟩, hall⟩

theorem chainPast_eq_of_acyclic (hg : g.Consistent) (hacyclic : g.Acyclic) {branch : List String}
    (hbranch : ∀ b ∈ branch, Relation.TransGen g.Edge node b) :
    g.chainPast branch node = node :: (g.dependents node).foldl
      (fun best next => longer best (g.chainPast [] next)) [] := by
  -- The branch is arbitrary: without cycles it blocks no dependent, so `[]` gives the same.
  induction node using (wellFounded_dependents hg hacyclic).induction generalizing branch with
  | _ node ih =>
    rw [chainPast_eq]
    congr 1
    refine List.foldl_ext _ _ _ fun best next hnext => ?_
    obtain ⟨hfree, hall⟩ := free_of_mem_dependents hg hacyclic hbranch hnext
    have hnil : ∀ b ∈ ([] : List String), Relation.TransGen g.Edge next b := by simp
    rw [if_pos hfree, ih next hnext hall, ← ih next hnext hnil]

theorem chainPast_nil_eq (hg : g.Consistent) (hacyclic : g.Acyclic) (node : String) :
    g.chainPast [] node = node :: (g.dependents node).foldl
      (fun best next => longer best (g.chainPast [] next)) [] :=
  chainPast_eq_of_acyclic hg hacyclic (by simp)

theorem chainPast_eq_chainPast_nil (hg : g.Consistent) (hacyclic : g.Acyclic)
    (hbranch : ∀ b ∈ branch, Relation.TransGen g.Edge node b) :
    g.chainPast branch node = g.chainPast [] node := by
  rw [chainPast_eq_of_acyclic hg hacyclic hbranch, chainPast_nil_eq hg hacyclic]

end Acyclic

section Depth

variable {depth d best : Nat} {pending : List String} {path : List Level} {memo : Table Nat}

/-- Every level depends on all those below it, and its dependents are pending. -/
def Descends (g : Graph) : List Level → Prop
  | [] => True
  | l :: path =>
    (l.node ∈ g.nodes ∧ (∀ n ∈ l.pending, n ∈ g.dependents l.node) ∧
      ∀ b ∈ trail (frames path), Relation.TransGen g.Edge l.node b) ∧ Descends g path

theorem descends_level (h : node ∈ g.nodes) : g.Descends [g.level node] :=
  ⟨⟨h, fun _ hn => hn, by simp⟩, trivial⟩

theorem Descends.raise (h : g.Descends path) : g.Descends (raise d path) := by
  cases path with
  | nil => trivial
  | cons l path => exact h

theorem Descends.follow (h : g.Descends (⟨⟨node, next :: pending⟩, best⟩ :: path)) (best' : Nat) :
    g.Descends (⟨⟨node, pending⟩, best'⟩ :: path) :=
  ⟨⟨h.1.1, fun n hn => h.1.2.1 n (List.mem_cons_of_mem _ hn), h.1.2.2⟩, h.2⟩

theorem Descends.enter (hg : g.Consistent) (hacyclic : g.Acyclic)
    (h : g.Descends (⟨⟨node, next :: pending⟩, best⟩ :: path)) :
    g.Descends (g.level next :: ⟨⟨node, pending⟩, best⟩ :: path) := by
  have hnext := h.1.2.1 next (List.mem_cons_self ..)
  obtain ⟨hfree, hall⟩ := free_of_mem_dependents hg hacyclic h.1.2.2 hnext
  exact ⟨⟨hfree.1, fun _ hn => hn, hall⟩, h.follow best⟩

theorem Descends.chainPast_eq (hg : g.Consistent) (hacyclic : g.Acyclic) {l : Level}
    (h : g.Descends (l :: path)) :
    g.chainPast (trail (frames path)) l.node = g.chainPast [] l.node :=
  chainPast_eq_chainPast_nil hg hacyclic h.1.2.2

theorem depthFrom_exact (hg : g.Consistent) (hacyclic : g.Acyclic) (path : List Level)
    (hne : path ≠ []) (h : g.Measures depth 0 path) (hpath : g.Descends path) (d : Nat)
    (memo : Table Nat) (hmemo : memo.Exact g.depth) :
    (g.depthFrom true path d memo).1 = depth ∧
      (g.depthFrom true path d memo).2.Exact g.depth := by
  induction path, d, memo using depthFrom.induct g true with
  | case1 => exact absurd rfl hne
  | case2 d memo node best path ih =>
    obtain ⟨hlength, hlast, hmeasures⟩ := h.leave
    have hinsert : (memo.insert node (1 + best)).Exact g.depth := by
      rw [hpath.chainPast_eq hg hacyclic] at hlength
      exact hmemo.insert (hlength ▸ depth_eq_ok hpath.1.1)
    rw [depthFrom]
    by_cases hnil : path = []
    · subst hnil
      rw [Graph.raise, depthFrom]
      exact ⟨hlast rfl, hinsert⟩
    · exact ih (raise_ne_nil hnil) (hmeasures.raise hnil) hpath.2.raise hinsert
  | case3 d memo node next pending best path hfree d' hd ih =>
    have hnext : d' = (g.chainPast (node :: trail (frames path)) next).length := by
      have hpast := (hpath.enter hg hacyclic).chainPast_eq hg hacyclic
      have hok := (depth_eq_ok hfree.1).symm.trans (hmemo.get? hd)
      exact (Except.ok.inj hok).symm.trans (congrArg List.length hpast.symm)
    rw [depthFrom, dif_pos hfree]
    simp only [hd]
    exact ih (List.cons_ne_nil _ _) (h.known hfree hnext) (hpath.follow _) hmemo
  | case4 d memo node next pending best path hfree hnone ih =>
    rw [depthFrom, dif_pos hfree]
    simp only [hnone]
    exact ih (List.cons_ne_nil _ _) (h.enter hfree) (hpath.enter hg hacyclic) hmemo
  | case5 d memo node next pending best path hnot ih =>
    rw [depthFrom, dif_neg hnot]
    exact ih (List.cons_ne_nil _ _) (h.skip hnot) (hpath.follow _) hmemo

theorem depthMemo_spec (hg : g.Consistent) (hacyclic : g.Acyclic) (hnode : node ∈ g.nodes)
    (hmemo : memo.Exact g.depth) : ∃ d memo', g.depthMemo node memo = .ok (d, memo') ∧
      g.depth node = .ok d ∧ memo'.Exact g.depth := by
  rw [depthMemo, if_pos hnode]
  cases hget : memo.get? node with
  | some d => exact ⟨d, memo, rfl, hmemo.get? hget, hmemo⟩
  | none =>
    obtain ⟨hdepth, hexact⟩ := depthFrom_exact hg hacyclic _ (List.cons_ne_nil _ _)
      (measures_level node) (descends_level hnode) 0 memo hmemo
    exact ⟨_, _, rfl, hdepth ▸ depth_eq_ok hnode, hexact⟩

end Depth

section Chain

variable {memo known : Table (List String)} {tasks : List Task}

theorem solve_nil : g.solve [] memo = some memo := by
  rw [solve]

theorem solve_of_isSome {ready : Bool} (h : (memo.get? node).isSome = true) :
    g.solve (⟨node, ready⟩ :: tasks) memo = g.solve tasks memo := by
  rw [solve, if_pos h]

theorem solve_expand (h : ¬ (memo.get? node).isSome = true) :
    g.solve (⟨node, false⟩ :: tasks) memo = g.solve (g.expand memo node ++ tasks) memo := by
  rw [solve, if_neg h]
  rfl

theorem solve_ready (h : ¬ (memo.get? node).isSome = true) {chains : List (List String)}
    (hchains : (g.dependents node).mapM memo.get? = some chains) :
    g.solve (⟨node, true⟩ :: tasks) memo =
      g.solve tasks (memo.insert node (node :: chains.foldl longer [])) := by
  rw [solve, if_neg h, if_pos rfl, hchains]

theorem mapM_get?_eq_some {f : String → List String} {names : List String}
    (h : ∀ n ∈ names, memo.get? n = some (f n)) : names.mapM memo.get? = some (names.map f) := by
  induction names with
  | nil => rfl
  | cons n names ih =>
    rw [List.mapM_cons, h n (List.mem_cons_self ..),
      ih fun m hm => h m (List.mem_cons_of_mem _ hm)]
    rfl

/-- The table has grown from another one and holds the chains of the given behaviors too. -/
structure Grown (g : Graph) (memo known : Table (List String)) (names : List String) : Prop where
  exact_known : known.Exact g.chain
  mono : ∀ n, (memo.get? n).isSome = true → (known.get? n).isSome = true
  solved : ∀ n ∈ names, (known.get? n).isSome = true

theorem Grown.append {next known : Table (List String)} {xs ys : List String}
    (h : g.Grown memo next xs) (h' : g.Grown next known ys) : g.Grown memo known (xs ++ ys) where
  exact_known := h'.exact_known
  mono := fun n hn => h'.mono n (h.mono n hn)
  solved := fun n hn => by
    rcases List.mem_append.mp hn with hn | hn
    · exact h'.mono n (h.solved n hn)
    · exact h'.solved n hn

theorem solve_tasks {names : List String} (hmemo : memo.Exact g.chain)
    (hnames : ∀ n ∈ names, ∀ tasks memo, memo.Exact g.chain → ∃ known,
      g.solve (⟨n, false⟩ :: tasks) memo = g.solve tasks known ∧ g.Grown memo known [n])
    (tasks : List Task) : ∃ known,
      g.solve (names.map (⟨·, false⟩) ++ tasks) memo = g.solve tasks known ∧
        g.Grown memo known names := by
  induction names generalizing memo with
  | nil => exact ⟨memo, rfl, hmemo, fun _ h => h, by simp⟩
  | cons n names ih =>
    obtain ⟨next, hnext, hgrown⟩ :=
      hnames n (List.mem_cons_self ..) (names.map (⟨·, false⟩) ++ tasks) memo hmemo
    obtain ⟨known, hknown, hrest⟩ :=
      ih hgrown.exact_known fun m hm => hnames m (List.mem_cons_of_mem _ hm)
    refine ⟨known, ?_, hgrown.append hrest⟩
    rw [List.map_cons, List.cons_append, hnext, hknown]

theorem solve_solved {ready : Bool} (hmemo : memo.Exact g.chain)
    (hsome : (memo.get? node).isSome = true) (tasks : List Task) : ∃ known,
      g.solve (⟨node, ready⟩ :: tasks) memo = g.solve tasks known ∧ g.Grown memo known [node] :=
  ⟨memo, solve_of_isSome hsome, hmemo, fun _ h => h, by simpa using hsome⟩

theorem get?_eq_some_chainPast (hmemo : memo.Exact g.chain) (hnode : node ∈ g.nodes)
    (hsome : (memo.get? node).isSome = true) : memo.get? node = some (g.chainPast [] node) := by
  obtain ⟨chain, hchain⟩ := Option.isSome_iff_exists.mp hsome
  have hok := (chain_eq_ok hnode).symm.trans (hmemo.get? hchain)
  rw [hchain, Except.ok.inj hok]

theorem solve_ready_of_acyclic (hg : g.Consistent) (hacyclic : g.Acyclic) (hnode : node ∈ g.nodes)
    (hmemo : memo.Exact g.chain) (hsolved : ∀ n ∈ g.dependents node, (memo.get? n).isSome = true)
    (tasks : List Task) : ∃ known,
      g.solve (⟨node, true⟩ :: tasks) memo = g.solve tasks known ∧ g.Grown memo known [node] := by
  by_cases hsome : (memo.get? node).isSome = true
  · exact solve_solved hmemo hsome tasks
  · have hchains := mapM_get?_eq_some (f := g.chainPast []) fun n hn =>
      get?_eq_some_chainPast hmemo (mem_nodes_of_mem_dependents hg hn) (hsolved n hn)
    have hchain : node :: ((g.dependents node).map (g.chainPast [])).foldl longer [] =
        g.chainPast [] node := by
      rw [chainPast_nil_eq hg hacyclic, List.foldl_map]
    refine ⟨_, solve_ready hsome hchains, ?_, fun n hn => ?_, by simp [Table.get?_insert]⟩
    · exact hmemo.insert (hchain ▸ chain_eq_ok hnode)
    · rw [Table.get?_insert]
      split
      · rfl
      · exact hn

/-- On a graph without cycles the tasks of a behavior come to an end, with its chain in the table.
The induction goes from the dependents to the behavior, as the tasks do. -/
theorem solve_task (hg : g.Consistent) (hacyclic : g.Acyclic) (hnode : node ∈ g.nodes)
    (tasks : List Task) (memo : Table (List String)) (hmemo : memo.Exact g.chain) : ∃ known,
      g.solve (⟨node, false⟩ :: tasks) memo = g.solve tasks known ∧ g.Grown memo known [node] := by
  induction node using (wellFounded_dependents hg hacyclic).induction generalizing tasks memo with
  | _ node ih =>
    by_cases hsome : (memo.get? node).isSome = true
    · exact solve_solved hmemo hsome tasks
    · rw [solve_expand hsome, expand, List.append_assoc]
      have hopen : ∀ n ∈ ((g.dependents node).filter fun n => (memo.get? n).isNone).reverse,
          n ∈ g.dependents node := fun n hn => (List.mem_filter.mp (List.mem_reverse.mp hn)).1
      obtain ⟨inner, hinner, hgrown⟩ := solve_tasks hmemo
        (fun n hn => ih n (hopen n hn) (mem_nodes_of_mem_dependents hg (hopen n hn)))
        ([⟨node, true⟩] ++ tasks)
      have hsolved : ∀ n ∈ g.dependents node, (inner.get? n).isSome = true := by
        intro n hn
        by_cases hn' : (memo.get? n).isSome = true
        · exact hgrown.mono n hn'
        · exact hgrown.solved n (by simpa [hn] using hn')
      obtain ⟨known, hknown, hlast⟩ :=
        solve_ready_of_acyclic hg hacyclic hnode hgrown.exact_known hsolved tasks
      exact ⟨known, hinner.trans hknown, { hgrown.append hlast with solved := hlast.solved }⟩

theorem chainMemo_spec (hg : g.Consistent) (hacyclic : g.Acyclic) (hnode : node ∈ g.nodes)
    (hmemo : memo.Exact g.chain) : ∃ chain memo', g.chainMemo node memo = .ok (chain, memo') ∧
      g.chain node = .ok chain ∧ memo'.Exact g.chain := by
  obtain ⟨known, hknown, hgrown⟩ := solve_task hg hacyclic hnode [] memo hmemo
  have hget := get?_eq_some_chainPast hgrown.exact_known hnode
    (hgrown.solved node (List.mem_singleton_self node))
  refine ⟨_, known, ?_, chain_eq_ok hnode, hgrown.exact_known⟩
  rw [chainMemo, hknown, solve_nil]
  simp only [hget]

end Chain

structure Answer where
  start : String
  depth : Nat
  chain : List String
  depths : Table Nat
  chains : Table (List String)
  deriving DecidableEq, Repr

/-- The answers to calls that share a table of depths and a table of chains. -/
def answers (g : Graph) : List String → Table Nat → Table (List String) → Outcome (List Answer)
  | [], _, _ => .ok []
  | start :: starts, depths, chains => do
    let (depth, depths) ← g.depthMemo start depths
    let (chain, chains) ← g.chainMemo start chains
    let rest ← answers g starts depths chains
    return ⟨start, depth, chain, depths, chains⟩ :: rest

/-- Both answers are those of the searches without a table, and so is all that the tables hold. -/
structure Answer.Exact (g : Graph) (a : Answer) : Prop where
  depth : g.depth a.start = .ok a.depth
  chain : g.chain a.start = .ok a.chain
  depths : a.depths.Exact g.depth
  chains : a.chains.Exact g.chain

theorem exists_answers_eq_ok (hg : g.Consistent) (hacyclic : g.Acyclic) (starts : List String)
    (hstarts : ∀ n ∈ starts, n ∈ g.nodes) (depths : Table Nat) (chains : Table (List String))
    (hdepths : depths.Exact g.depth) (hchains : chains.Exact g.chain) :
    ∃ found, g.answers starts depths chains = .ok found ∧ found.map (·.start) = starts ∧
      ∀ a ∈ found, a.Exact g := by
  induction starts generalizing depths chains with
  | nil => exact ⟨[], rfl, rfl, by simp⟩
  | cons start starts ih =>
    obtain ⟨hstart, hrests⟩ := List.forall_mem_cons.mp hstarts
    obtain ⟨d, depths', hd, hdepth, hdepths'⟩ := depthMemo_spec hg hacyclic hstart hdepths
    obtain ⟨c, chains', hc, hchain, hchains'⟩ := chainMemo_spec hg hacyclic hstart hchains
    obtain ⟨rest, hrest, hnames, hall⟩ := ih hrests depths' chains' hdepths' hchains'
    refine ⟨⟨start, d, c, depths', chains'⟩ :: rest, ?_, ?_, fun a ha => ?_⟩
    · exact Outcome.bind_eq_ok_iff.mpr ⟨_, hd, Outcome.bind_eq_ok_iff.mpr ⟨_, hc,
        Outcome.bind_eq_ok_iff.mpr ⟨rest, hrest, rfl⟩⟩⟩
    · rw [List.map_cons, hnames]
    · rcases List.mem_cons.mp ha with rfl | ha
      · exact ⟨hdepth, hchain, hdepths', hchains'⟩
      · exact hall a ha

/-- On a sound graph without cycles every sequence of calls that share two tables, empty at first,
comes to an end, is answered as by the searches without a table, and leaves only such answers in the
tables after each call. -/
theorem exact_answers (hg : Checked.defect? g = none) (hacyclic : g.Acyclic)
    (starts : List String) (hstarts : ∀ n ∈ starts, n ∈ g.nodes) :
    ∃ found, g.answers starts .empty .empty = .ok found ∧ found.map (·.start) = starts ∧
      ∀ a ∈ found, a.Exact g :=
  exists_answers_eq_ok (consistent_of_sound hg) hacyclic starts hstarts _ _ Table.exact_empty
    Table.exact_empty

/-- `B` and `C` depend on `A`, and `D` on both. -/
def diamond : Graph where
  nodes := ["A", "B", "C", "D"]
  forward := ⟨[("B", ["A"]), ("C", ["A"]), ("D", ["B", "C"])]⟩
  reverse := ⟨[("A", ["C", "B"]), ("B", ["D"]), ("C", ["D"])]⟩

theorem exact_answers_diamond : diamond.chain "A" = .ok ["A", "C", "D"] ∧
    ∃ found, diamond.answers ["B", "A", "D", "A"] .empty .empty = .ok found ∧
      found.map (·.start) = ["B", "A", "D", "A"] ∧ ∀ a ∈ found, a.Exact diamond := by
  have hsound : Checked.defect? diamond = none := by decide
  have hnone : diamond.cycles = [] := by
    simp [cycles, cyclesFrom, frame, diamond, dependencies, Table.get?, List.lookup_cons]
  have hacyclic := (cycles_eq_nil_iff (consistent_of_sound hsound)).mp hnone
  exact ⟨by decide +kernel, exact_answers hsound hacyclic _ (by decide)⟩

end Graph

end BehaviorPlan
