import BehaviorPlan.Graph.Dot
import BehaviorPlan.Proofs.Graph.Edges
import BehaviorPlan.Proofs.Text.Lines

/-! # Reading Graphviz text

The text of a graph can be read back. Lines are cut at line feeds, the first empty line behind the
heading ends the nodes, and names stand between double quotes. So the text determines the nodes and
the edges, as long as no name has a line feed or a double quote. -/
namespace BehaviorPlan.Graph

/-- Every second piece of a line that was cut at double quotes. -/
def secondPieces : List (List Char) → List String
  | _ :: name :: pieces => String.ofList name :: secondPieces pieces
  | _ => []

def quotedNames (line : List Char) : List String :=
  secondPieces (line.splitOn '"')

def readNode? (line : List Char) : Option String :=
  (quotedNames line).head?

def readEdge? (line : List Char) : Option (String × String) :=
  match quotedNames line with
  | [source, target] => some (source, target)
  | _ => none

def readLines (lines : List (List Char)) : List String × List (String × String) :=
  ((lines.takeWhile (· ≠ [])).filterMap readNode?, (lines.dropWhile (· ≠ [])).filterMap readEdge?)

/-- The nodes and edges in a text with the given title. -/
def readDot (title text : String) : List String × List (String × String) :=
  readLines ((text.toList.drop (Text.unlines (heading title)).length).splitOn '\n')

section Line

variable {source target : String}

theorem quotedNames_line {lead middle last : List Char} (hlead : '"' ∉ lead)
    (hsource : '"' ∉ source.toList) (hmiddle : '"' ∉ middle) (htarget : '"' ∉ target.toList)
    (hlast : '"' ∉ last) :
    quotedNames (lead ++ '"' :: (source.toList ++
      '"' :: (middle ++ '"' :: (target.toList ++ '"' :: last)))) = [source, target] := by
  rw [quotedNames, List.splitOn_append_cons_self_of_not_mem hlead,
    List.splitOn_append_cons_self_of_not_mem hsource,
    List.splitOn_append_cons_self_of_not_mem hmiddle,
    List.splitOn_append_cons_self_of_not_mem htarget, List.splitOn_eq_singleton hlast]
  simp only [secondPieces, String.ofList_toList]

theorem readNode?_dotNode (h : '"' ∉ source.toList) :
    readNode? (dotNode source).toList = some source := by
  have hline : (dotNode source).toList = "    ".toList ++ '"' :: (source.toList ++
      '"' :: (" [label=".toList ++ '"' :: (source.toList ++ '"' :: "];".toList))) := by
    simp [dotNode]
  rw [readNode?, hline, quotedNames_line (by decide) h (by decide) h (by decide)]
  rfl

theorem readEdge?_dotEdge (hsource : '"' ∉ source.toList) (htarget : '"' ∉ target.toList) :
    readEdge? (dotEdge (source, target)).toList = some (source, target) := by
  have hline : (dotEdge (source, target)).toList = "    ".toList ++ '"' :: (source.toList ++
      '"' :: (" -> ".toList ++ '"' :: (target.toList ++ '"' :: ";".toList))) := by
    simp [dotEdge]
  rw [readEdge?, hline, quotedNames_line (by decide) hsource (by decide) htarget (by decide)]

end Line

section Text

variable {g : Graph}

theorem Legible.ends_mem (h : g.Legible) {e : String × String} (he : e ∈ g.edges) :
    e.1 ∈ g.nodes ∧ e.2 ∈ g.nodes := by
  have hg := consistent_of_sound h.sound
  have hedge := (mem_edges_iff hg).mp he
  exact ⟨hg.source_mem hedge, hg.target_mem hedge⟩

theorem Legible.newline_not_mem (h : g.Legible) : ∀ line ∈ g.drawing, '\n' ∉ line.toList := by
  simp only [drawing, List.forall_mem_append, List.forall_mem_cons, List.forall_mem_map]
  refine ⟨fun n hn => ?_, by decide, fun e he => ?_, by decide⟩
  · exact fun hline => h.newline n hn (newline_mem_dotNode_iff.mp hline)
  · obtain ⟨hsource, htarget⟩ := h.ends_mem he
    exact fun hline => (newline_mem_dotEdge_iff.mp hline).elim (h.newline _ hsource)
      (h.newline _ htarget)

theorem Legible.filterMap_nodes (h : g.Legible) :
    (g.nodes.map fun n => (dotNode n).toList).filterMap readNode? = g.nodes := by
  rw [List.filterMap_map]
  refine (List.filterMap_congr fun n hn => ?_).trans List.filterMap_some
  exact readNode?_dotNode (h.quote n hn)

theorem Legible.filterMap_edges (h : g.Legible) :
    (g.edges.map fun e => (dotEdge e).toList).filterMap readEdge? = g.edges := by
  rw [List.filterMap_map]
  refine (List.filterMap_congr fun e he => ?_).trans List.filterMap_some
  obtain ⟨hsource, htarget⟩ := h.ends_mem he
  exact readEdge?_dotEdge (h.quote _ hsource) (h.quote _ htarget)

/-- The lines of a drawing give its nodes and edges back. No line of a node is empty, so the first
empty line ends the nodes; neither it nor what follows the edges is taken for an edge. -/
theorem Legible.readLines_drawing (h : g.Legible) :
    readLines (g.drawing.map String.toList ++ [[]]) = (g.nodes, g.edges) := by
  have hlines : g.drawing.map String.toList ++ [[]] = (g.nodes.map fun n => (dotNode n).toList) ++
      [] :: ((g.edges.map fun e => (dotEdge e).toList) ++ [['\x7d'], []]) := by
    simp [drawing, Function.comp_def]
  have hnode : ∀ line ∈ g.nodes.map fun n => (dotNode n).toList, decide (line ≠ []) = true := by
    simp [dotNode]
  have hempty : readEdge? [] = none := by decide
  have hclose : readEdge? ['\x7d'] = none := by decide
  rw [readLines, hlines, List.takeWhile_append_of_pos hnode, List.dropWhile_append_of_pos hnode]
  simp [h.filterMap_nodes, h.filterMap_edges, hempty, hclose]

theorem Legible.readDot_dot (h : g.Legible) (title : String) :
    readDot title (g.dot title) = (g.nodes, g.edges) := by
  rw [readDot, dot_eq, String.toList_append, ← String.length_toList, List.drop_left,
    Text.splitOn_unlines (by simp [drawing]) h.newline_not_mem, h.readLines_drawing]

end Text

/-- Graphs have the same text exactly if they have the same nodes and the same edges, both in the
same order. -/
theorem dot_eq_dot_iff (title : String) {g h : Graph} (hg : g.Legible) (hh : h.Legible) :
    g.dot title = h.dot title ↔ g.nodes = h.nodes ∧ g.edges = h.edges := by
  constructor
  · intro htext
    have hread := hg.readDot_dot title
    rw [htext, hh.readDot_dot title] at hread
    obtain ⟨hnodes, hedges⟩ := Prod.mk.inj hread
    exact ⟨hnodes.symm, hedges.symm⟩
  · rintro ⟨hnodes, hedges⟩
    rw [dot, dot, drawing, drawing, hnodes, hedges]

/-- Names that look like the lines of a text. -/
def lineLikeNames : List String :=
  ["", "\x7d", "a -> b;", "a [label=a];"]

/-- The graph of one edge, without an entry for nodes that have no neighbours. -/
def oneEdge : Graph :=
  { nodes := lineLikeNames
    forward := ⟨[("\x7d", ["a -> b;"])]⟩
    reverse := ⟨[("a -> b;", ["\x7d"])]⟩ }

def oneEdgePadded : Graph :=
  { nodes := lineLikeNames
    forward := .ofKeys lineLikeNames fun n => if n = "\x7d" then ["a -> b;"] else []
    reverse := .ofKeys lineLikeNames fun n => if n = "a -> b;" then ["\x7d"] else [] }

def oneEdgeTurned : Graph :=
  { oneEdge with forward := oneEdge.reverse, reverse := oneEdge.forward }

theorem dot_eq_dot_lineLikeNames :
    (oneEdge.Legible ∧ oneEdgePadded.Legible ∧ oneEdgeTurned.Legible) ∧
      oneEdge ≠ oneEdgePadded ∧ oneEdge.dot "g" = oneEdgePadded.dot "g" ∧
        oneEdge.dot "g" ≠ oneEdgeTurned.dot "g" := by
  have hedge : oneEdge.Legible := by decide
  have hpadded : oneEdgePadded.Legible := by decide
  have hturned : oneEdgeTurned.Legible := by decide
  refine ⟨⟨hedge, hpadded, hturned⟩, by decide, ?_, fun htext => ?_⟩
  · exact (dot_eq_dot_iff "g" hedge hpadded).mpr ⟨by decide, by decide⟩
  · have hedges := ((dot_eq_dot_iff "g" hedge hturned).mp htext).2
    exact absurd hedges (by decide)

end BehaviorPlan.Graph
