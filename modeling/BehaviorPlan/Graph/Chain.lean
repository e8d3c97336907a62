import BehaviorPlan.Graph.Cycles

/-! # Chains of dependents

How far dependents pile up on a behavior: the longest path from it through dependents on which
no behavior occurs twice. One search measures this path and another keeps it; both walk along all
such paths. On graphs without cycles results may be remembered in a table, so that every behavior
is solved once. On graphs with cycles a remembered depth depends on how it was reached, and a
search for remembered chains may go round for ever. -/
namespace BehaviorPlan.Graph

section Walk

/-- The behaviors on a path. Both are given from the end to the start. -/
def trail (path : List Frame) : List String :=
  path.map (·.node)

def Free (g : Graph) (branch : List String) (node : String) : Prop :=
  node ∈ g.nodes ∧ node ∉ branch

instance (g : Graph) (branch : List String) (node : String) : Decidable (g.Free branch node) :=
  inferInstanceAs (Decidable (_ ∧ _))

def freeCount (g : Graph) (branch : List String) : Nat :=
  (g.nodes.filter (· ∉ branch)).length

def width (g : Graph) : Nat :=
  g.reverse.values.flatten.length

/-- A bound on the steps until a behavior is left again, by the number of free behaviors. -/
def stepBound (g : Graph) : Nat → Nat
  | 0 => 1
  | free + 1 => 2 + g.width * stepBound g free

def walkBound (g : Graph) : List Frame → Nat
  | [] => 0
  | f :: path =>
    1 + f.pending.length * g.stepBound (g.freeCount (f.node :: trail path)) + walkBound g path

@[simp] theorem trail_nil : trail [] = [] := rfl

@[simp] theorem trail_cons (f : Frame) (path : List Frame) :
    trail (f :: path) = f.node :: trail path := rfl

theorem freeCount_lt {g : Graph} {branch : List String} {node : String}
    (h : g.Free branch node) : g.freeCount (node :: branch) < g.freeCount branch := by
  have hfilter : g.nodes.filter (· ∉ node :: branch) =
      (g.nodes.filter (· ∉ branch)).filter (· ≠ node) := by
    simp [List.filter_filter, not_or]
  rw [freeCount, freeCount, hfilter, List.length_filter_lt_length_iff_exists]
  exact ⟨node, List.mem_filter.mpr ⟨h.1, decide_eq_true h.2⟩, by simp⟩

theorem length_dependents_le (g : Graph) (node : String) :
    (g.dependents node).length ≤ g.width := by
  rw [dependents, Table.get?]
  cases hlookup : g.reverse.entries.lookup node with
  | none => simp
  | some names =>
    obtain ⟨_, _, hentries, _⟩ := List.lookup_eq_some_iff.mp hlookup
    have hmem : names ∈ g.reverse.values := by simp [Table.values, hentries]
    exact (List.sublist_flatten_of_mem hmem).length_le

theorem stepBound_le_succ (g : Graph) (free : Nat) :
    g.stepBound free ≤ g.stepBound (free + 1) := by
  induction free with
  | zero => simp only [stepBound]; omega
  | succ free ih => exact Nat.add_le_add_left (Nat.mul_le_mul_left _ ih) 2

theorem stepBound_mono (g : Graph) {a b : Nat} (h : a ≤ b) : g.stepBound a ≤ g.stepBound b := by
  induction h with
  | refl => exact Nat.le_refl _
  | step _ ih => exact Nat.le_trans ih (g.stepBound_le_succ _)

theorem stepBound_pos (g : Graph) (free : Nat) : 0 < g.stepBound free :=
  Nat.lt_of_lt_of_le Nat.one_pos (g.stepBound_mono (Nat.zero_le free))

theorem stepBound_lt (g : Graph) {a b : Nat} (h : a < b) :
    1 + g.width * g.stepBound a < g.stepBound b := by
  obtain ⟨b, rfl⟩ := Nat.exists_eq_add_one_of_ne_zero (Nat.ne_zero_of_lt h)
  have hle := Nat.mul_le_mul_left g.width (g.stepBound_mono (Nat.le_of_lt_succ h))
  rw [stepBound]
  omega

variable {g : Graph} {node next : String} {pending : List String} {path : List Frame}

theorem walkBound_leave : g.walkBound path < g.walkBound (⟨node, pending⟩ :: path) := by
  rw [walkBound]
  omega

theorem walkBound_skip :
    g.walkBound (⟨node, pending⟩ :: path) < g.walkBound (⟨node, next :: pending⟩ :: path) := by
  have hpos := g.stepBound_pos (g.freeCount (node :: trail path))
  simp only [walkBound, List.length_cons, Nat.succ_mul]
  omega

theorem walkBound_enter (h : g.Free (node :: trail path) next) :
    g.walkBound (⟨next, g.dependents next⟩ :: ⟨node, pending⟩ :: path) <
      g.walkBound (⟨node, next :: pending⟩ :: path) := by
  have hlt := g.stepBound_lt (freeCount_lt h)
  have hle := Nat.mul_le_mul_right
    (g.stepBound (g.freeCount (next :: node :: trail path))) (g.length_dependents_le next)
  simp only [walkBound, trail_cons, List.length_cons, Nat.succ_mul]
  omega

end Walk

section Depth

/-- A behavior on the branch, those of its dependents that are still to be visited, and the depth
of the deepest one that was visited. -/
structure Level extends Frame where
  best : Nat := 0
  deriving DecidableEq, Repr

def level (g : Graph) (node : String) : Level :=
  { node, pending := g.dependents node }

def frames (path : List Level) : List Frame :=
  path.map (·.toFrame)

/-- A dependent of the last behavior on the branch is as deep as given. -/
def raise (depth : Nat) : List Level → List Level
  | [] => []
  | l :: path => { l with best := max l.best depth } :: path

@[simp] theorem frames_nil : frames [] = [] := rfl

@[simp] theorem frames_cons (l : Level) (path : List Level) :
    frames (l :: path) = l.toFrame :: frames path := rfl

@[simp] theorem frames_raise (depth : Nat) (path : List Level) :
    frames (raise depth path) = frames path := by
  cases path <;> rfl

/-- The depth of the first behavior on the path; `depth` is the one of the behavior left last.
Depths that the table holds are not searched for; it is extended if they are to be remembered. -/
def depthFrom (g : Graph) (remember : Bool) (path : List Level) (depth : Nat)
    (memo : Table Nat) : Nat × Table Nat :=
  match path with
  | [] => (depth, memo)
  | ⟨⟨node, []⟩, best⟩ :: path =>
    depthFrom g remember (raise (1 + best) path) (1 + best)
      (if remember then memo.insert node (1 + best) else memo)
  | ⟨⟨node, next :: pending⟩, best⟩ :: path =>
    if _h : g.Free (node :: trail (frames path)) next then
      match memo.get? next with
      | some d => depthFrom g remember (⟨⟨node, pending⟩, max best d⟩ :: path) depth memo
      | none => depthFrom g remember (g.level next :: ⟨⟨node, pending⟩, best⟩ :: path) depth memo
    else depthFrom g remember (⟨⟨node, pending⟩, best⟩ :: path) depth memo
termination_by g.walkBound (frames path)
decreasing_by
  · rw [frames_raise]
    exact walkBound_leave
  · exact walkBound_skip
  · exact walkBound_enter _h
  · exact walkBound_skip

def depth (g : Graph) (start : String) : Outcome Nat :=
  if start ∈ g.nodes then .ok (g.depthFrom false [g.level start] 0 .empty).1
  else .error (.unknownName start)

def depthMemo (g : Graph) (start : String) (memo : Table Nat) : Outcome (Nat × Table Nat) :=
  if start ∈ g.nodes then
    match memo.get? start with
    | some d => .ok (d, memo)
    | none => .ok (g.depthFrom true [g.level start] 0 memo)
  else .error (.unknownName start)

end Depth

section Chain

def longer (best path : List String) : List String :=
  if best.length < path.length then path else best

/-- The longest path that the walk meets from here on, or the one known so far if none is longer. -/
def chainFrom (g : Graph) (path : List Frame) (longest : List String) : List String :=
  match path with
  | [] => longest
  | ⟨_, []⟩ :: path => chainFrom g path longest
  | ⟨node, next :: pending⟩ :: path =>
    if _h : g.Free (node :: trail path) next then
      chainFrom g (⟨next, g.dependents next⟩ :: ⟨node, pending⟩ :: path)
        (longer longest (next :: node :: trail path).reverse)
    else chainFrom g (⟨node, pending⟩ :: path) longest
termination_by g.walkBound path
decreasing_by
  · exact walkBound_leave
  · exact walkBound_enter _h
  · exact walkBound_skip

/-- The longest chain from a behavior; of several, the one that the walk meets first. -/
def chain (g : Graph) (start : String) : Outcome (List String) :=
  if start ∈ g.nodes then .ok (g.chainFrom [⟨start, g.dependents start⟩] [start])
  else .error (.unknownName start)

/-- A behavior to be solved: first its dependents have to be, and once they are it is ready. -/
structure Task where
  node : String
  ready : Bool
  deriving DecidableEq, Repr

/-- The tasks of a behavior: its dependents that are not solved yet, the last one first, and then
the behavior itself. -/
def expand (g : Graph) (memo : Table (List String)) (node : String) : List Task :=
  ((g.dependents node).filter fun n => (memo.get? n).isNone).reverse.map (⟨·, false⟩) ++
    [⟨node, true⟩]

/-- The table of chains after all tasks. A behavior that waits for itself is expanded again and
again; then there is no result. -/
def solve (g : Graph) (tasks : List Task) (memo : Table (List String)) :
    Option (Table (List String)) :=
  match tasks with
  | [] => some memo
  | ⟨node, ready⟩ :: tasks =>
    if (memo.get? node).isSome then g |>.solve tasks memo
    else if ready then
      match (g.dependents node).mapM memo.get? with
      | some chains => g |>.solve tasks (memo.insert node (node :: chains.foldl longer []))
      | none => none
    else g |>.solve (g.expand memo node ++ tasks) memo
partial_fixpoint

/-- The chain and the table with all chains that were found on the way. Unlike `depthMemo`, this
takes any name: one that is no behavior has no dependents. Where the search does not end, the
behavior cannot be solved because of a cycle. -/
def chainMemo (g : Graph) (start : String) (memo : Table (List String)) :
    Outcome (List String × Table (List String)) :=
  match g.solve [⟨start, false⟩] memo with
  | none => .error (.cyclic [start])
  | some memo =>
    match memo.get? start with
    | some chain => .ok (chain, memo)
    | none => .error (.unknownName start)

end Chain

def deepestMemo (g : Graph) : List String → Table Nat → Outcome Nat
  | [], _ => .ok 0
  | start :: starts, memo => do
    let (d, memo) ← g.depthMemo start memo
    let rest ← deepestMemo g starts memo
    return max d rest

def deepest (g : Graph) : List String → Outcome Nat
  | [] => .ok 0
  | start :: starts => do
    let d ← g.depth start
    let rest ← deepest g starts
    return max d rest

def chainsMemo (g : Graph) : List String → Table (List String) → Outcome (List (List String))
  | [], _ => .ok []
  | start :: starts, memo => do
    let (chain, memo) ← g.chainMemo start memo
    let rest ← chainsMemo g starts memo
    return chain :: rest

/-- The chains of all roots, longest first, and at most `limit` of them. A table of known chains
is used if there are no cycles. -/
def longestChains (g : Graph) (cycleCount limit : Int) : Outcome (List (List String)) := do
  let chains ← if cycleCount = 0 then g.chainsMemo g.roots .empty else g.roots.mapM g.chain
  return (chains.mergeSort fun a b => decide (b.length ≤ a.length)).take limit.toNat

def maxDepth (g : Graph) (cycleCount : Int) : Outcome Nat :=
  if cycleCount = 0 then g.deepestMemo g.roots .empty else g.deepest g.roots

end BehaviorPlan.Graph
