import BehaviorPlan.Graph.Basic

/-! # Cycles

A depth-first search from every behavior in order of declaration. Each edge that leads back into
the current path closes a cycle, which is reported as the piece of the path between its ends. -/
namespace BehaviorPlan.Graph

/-- A behavior on the search path and those of its neighbours that are still to be followed. -/
structure Frame where
  node : String
  pending : List String
  deriving DecidableEq, Repr

def frame (g : Graph) (node : String) : Frame :=
  ⟨node, g.dependencies node⟩

/-- The piece of the path from `node` on. The path is given from its end to its start. -/
def closedBy (path : List String) (node : String) : List String :=
  (path.takeWhile (· ≠ node) ++ [node]).reverse

def pathSize (path : List Frame) : Nat :=
  (path.flatMap fun f => f.node :: f.pending).length

/-- The cycles found from here on. `unseen` holds the behaviors not yet reached, in order of
declaration; `path` is the search path, its end first. -/
def cyclesFrom (g : Graph) (unseen : List String) (path : List Frame) : List (List String) :=
  match path with
  | [] =>
    match unseen with
    | [] => []
    | root :: unseen => cyclesFrom g unseen [g.frame root]
  | ⟨_, []⟩ :: path => cyclesFrom g unseen path
  | ⟨node, next :: pending⟩ :: path =>
    let trail := node :: path.map (·.node)
    if next ∈ trail then
      closedBy trail next :: cyclesFrom g unseen (⟨node, pending⟩ :: path)
    else if next ∈ unseen then
      cyclesFrom g (unseen.erase next) (g.frame next :: ⟨node, pending⟩ :: path)
    else cyclesFrom g unseen (⟨node, pending⟩ :: path)
termination_by (unseen.length, pathSize path)
decreasing_by
  · exact Prod.Lex.left _ _ (by simp)
  · exact Prod.Lex.right _ (by simp [pathSize])
  · exact Prod.Lex.right _ (by simp [pathSize])
  · rename_i h
    exact Prod.Lex.left _ _ (by
      rw [List.length_erase_of_mem h]
      exact Nat.sub_lt (List.length_pos_of_mem h) Nat.one_pos)
  · exact Prod.Lex.right _ (by simp [pathSize])

def cycles (g : Graph) : List (List String) :=
  cyclesFrom g g.nodes []

end BehaviorPlan.Graph
