import BehaviorPlan.Graph.Basic
import BehaviorPlan.Text.Lines

/-! # Graphviz text of a graph

One line per behavior in order of declaration, an empty line, and one line per edge. Names are put
between double quotes as they are. -/
namespace BehaviorPlan.Graph

def dotNode (node : String) : String :=
  "    \"" ++ node ++ "\" [label=\"" ++ node ++ "\"];"

def dotEdge (edge : String × String) : String :=
  "    \"" ++ edge.1 ++ "\" -> \"" ++ edge.2 ++ "\";"

/-- The lines before the first node. -/
def heading (title : String) : List String :=
  ["digraph " ++ title ++ " \x7b", "    rankdir=TB;", "    node [shape=box, style=rounded];", ""]

def drawing (g : Graph) : List String :=
  g.nodes.map dotNode ++ "" :: (g.edges.map dotEdge ++ ["\x7d"])

def dot (g : Graph) (title : String := "DependencyGraph") : String :=
  Text.unlines (heading title ++ g.drawing)

/-- A valid graph whose names end no line and no quotation. -/
structure Legible (g : Graph) : Prop where
  sound : Checked.defect? g = none
  newline : ∀ n ∈ g.nodes, '\n' ∉ n.toList
  quote : ∀ n ∈ g.nodes, '"' ∉ n.toList

instance (g : Graph) : Decidable g.Legible :=
  decidable_of_iff (Checked.defect? g = none ∧ (∀ n ∈ g.nodes, '\n' ∉ n.toList) ∧
      ∀ n ∈ g.nodes, '"' ∉ n.toList)
    ⟨fun ⟨sound, newline, quote⟩ => ⟨sound, newline, quote⟩,
      fun h => ⟨h.sound, h.newline, h.quote⟩⟩

theorem dot_eq (g : Graph) (title : String) :
    g.dot title = Text.unlines (heading title) ++ Text.unlines g.drawing := by
  rw [← Text.unlines_append (by simp [heading]) (by simp [drawing]), dot]

section Line

variable {source target : String}

theorem newline_mem_dotNode_iff : '\n' ∈ (dotNode source).toList ↔ '\n' ∈ source.toList := by
  simp [dotNode]

theorem newline_mem_dotEdge_iff : '\n' ∈ (dotEdge (source, target)).toList ↔
    '\n' ∈ source.toList ∨ '\n' ∈ target.toList := by
  simp [dotEdge]

end Line

end BehaviorPlan.Graph
