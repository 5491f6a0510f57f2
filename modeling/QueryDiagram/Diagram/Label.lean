import QueryDiagram.Diagram.Graph

/-!
Labels of nodes and edges.

A node's label has lines: the table's name and a separator; `(all columns)` when a wildcard
is among the columns, else up to five columns as bullets and a count of the rest; when there
are conditions, a separator, `WHERE:` and up to three conditions, each cut to forty
characters, and a count of the rest; when the node is marked, a separator and `[GROUP BY]`.

An edge's label names the join's kind (the four known kinds as `… JOIN`) and, when there is
a condition, adds the two characters `\n` (a backslash and `n`) and the condition cut to
thirty characters. Labels are escaped for quoting by doubling backslashes and putting a
backslash before each quote. Lengths count characters.
-/

namespace QueryDiagram

-- ============================================================ cutting text

/-- The first `n` characters of a text, followed by `...` when the text is longer. -/
def shorten (n : Nat) (s : String) : String :=
  if s.length > n then String.ofList (s.toList.take n) ++ "..." else s

/-- The line between the parts of a node's label. -/
def labelSeparator : String := "────────────────"

-- ============================================================ node labels

namespace TableNode

variable {μ : Type} [Mark μ]

/-- The lines that show a node's columns. -/
def columnLines {ν : Type} (n : TableNode ν) : List String :=
  if n.columns.isEmpty then []
  else if n.columns.contains "*" then ["(all columns)"]
  else
    (n.columns.take 5).map ("  • " ++ ·) ++
      (if n.columns.length > 5 then
        ["  ... and " ++ toString (n.columns.length - 5) ++ " more"]
      else [])

/-- The lines that show a node's conditions. -/
def filterLines {ν : Type} (n : TableNode ν) : List String :=
  if n.filters.isEmpty then []
  else
    [labelSeparator, "WHERE:"] ++ (n.filters.take 3).map (fun f => "  " ++ shorten 40 f) ++
      (if n.filters.length > 3 then
        ["  ... and " ++ toString (n.filters.length - 3) ++ " more"]
      else [])

/-- A node's label. -/
def label (n : TableNode μ) : String :=
  "\n".intercalate
    ([n.name, labelSeparator] ++ n.columnLines ++ n.filterLines ++
      (if Mark.isSet n.mark then [labelSeparator, "[GROUP BY]"] else []))

end TableNode

-- ============================================================ edge labels

/-- How a join kind is named on an edge. -/
def kindLabel (kind : String) : String :=
  if ["INNER", "LEFT", "RIGHT", "FULL"].contains kind then kind ++ " JOIN" else kind

/-- An edge's label; the condition follows a backslash and `n`. -/
def JoinEdge.label (e : JoinEdge) : String :=
  kindLabel e.kind ++ (if e.condition.isEmpty then "" else "\\n" ++ shorten 30 e.condition)

-- ============================================================ escaping

/-- Escapes one character of a label. -/
def escapeLabelChar (c : Char) : List Char :=
  if c == '\\' then ['\\', '\\'] else if c == '"' then ['\\', '"'] else [c]

/-- Escapes a label: each backslash doubled, a backslash before each quote. -/
def escapeLabel (s : String) : String := String.ofList (s.toList.flatMap escapeLabelChar)

end QueryDiagram
