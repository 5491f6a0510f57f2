import QueryDiagram.Diagram.Label
import QueryDiagram.Dot.Source

/-!
The DOT text of a diagram.

The graph runs left to right on a transparent background. Nodes are rounded, filled boxes
in Helvetica 11; edges are slate lines 1.5 wide with labels in size 10. Each node shows its
escaped label and takes its fill from a palette of eight colours by its position, starting
over after the eighth; each edge shows its label in a lighter slate.
-/

namespace QueryDiagram

open Dot

-- ============================================================ appearance

/-- The fill colours of the nodes, in the order they are used. -/
def palette : List String :=
  ["#7dd3fc", "#a5f3fc", "#bbf7d0", "#fde047", "#fdba74", "#f9a8d4", "#c4b5fd", "#e0e7ff"]

/-- The fill colour of the node at a position. -/
def fillAt (i : Nat) : String := palette.getD (i % palette.length) ""

/-- The statements before the nodes: direction, background, and the defaults of nodes and
edges. -/
def diagramStyle : List Stmt := [
  .graphAttr ⟨"rankdir", "LR"⟩,
  .graphAttr ⟨"bgcolor", "transparent"⟩,
  .defaults "node" [⟨"shape", "box"⟩, ⟨"style", "rounded,filled"⟩, ⟨"fontname", "Helvetica"⟩,
    ⟨"fontsize", "11"⟩],
  .defaults "edge" [⟨"fontsize", "10"⟩, ⟨"fontcolor", "#94a3b8"⟩, ⟨"color", "#64748b"⟩,
    ⟨"penwidth", "1.5"⟩]]

-- ============================================================ statements

namespace Diagram

variable {μ : Type} [Mark μ]

/-- The node statements, each with its position. -/
def nodeStmts : Nat → List (TableNode μ) → List Stmt
  | _, [] => []
  | i, n :: ns => .node n.name (escapeLabel n.label) [⟨"fillcolor", fillAt i⟩] :: nodeStmts (i + 1) ns

/-- The edge statement of a join. -/
def edgeStmt (e : JoinEdge) : Stmt :=
  .edge e.source e.target e.label [⟨"color", "#94a3b8"⟩, ⟨"fontcolor", "#64748b"⟩]

/-- A diagram as a directed graph. -/
def toDigraph (g : Diagram μ) : Digraph :=
  ⟨diagramStyle ++ nodeStmts 0 g.nodes ++ g.edges.map edgeStmt⟩

/-- The DOT text of a diagram. -/
def dotSource (g : Diagram μ) : String := g.toDigraph.source

end Diagram

end QueryDiagram
