import QueryDiagram.Dot.Quote

/-!
DOT documents.

A directed graph is written as `digraph {`, one tab-indented line per statement and `}`,
each line ending in a line feed. A statement sets a graph attribute (`name=value`), sets the
defaults of nodes or edges (`node [..]`), declares a node or declares an edge (`a -> b`). An
attribute list starts with the label when there is one and gives the other attributes sorted
by name; names and values are quoted as DOT identifiers, edge ends as edge ends.
-/

namespace QueryDiagram.Dot

-- ============================================================ statements

/-- An attribute: a name and its value. -/
structure Attr where
  name : String
  value : String
  deriving DecidableEq, Repr

/-- A statement of a directed graph. -/
inductive Stmt where
  /-- Sets an attribute of the whole graph. -/
  | graphAttr (a : Attr)
  /-- Sets attributes that every node (or every edge) takes by default. -/
  | defaults (kind : String) (attrs : List Attr)
  /-- Declares a node with a label. -/
  | node (id label : String) (attrs : List Attr)
  /-- Declares an edge with a label. -/
  | edge (tail head label : String) (attrs : List Attr)
  deriving DecidableEq, Repr

/-- A directed graph: its statements in order. -/
structure Digraph where
  body : List Stmt
  deriving DecidableEq, Repr

-- ============================================================ writing

/-- One attribute as `name=value`. -/
def Attr.render (a : Attr) : String := quote a.name ++ "=" ++ quote a.value

/-- The attributes sorted by name; attributes of one name keep their order. -/
def sortAttrs (attrs : List Attr) : List Attr :=
  attrs.mergeSort fun a b => decide (a.name ≤ b.name)

/-- The inside of an attribute list: the label first, then the attributes by name. -/
def attrText (label : Option String) (attrs : List Attr) : String :=
  " ".intercalate
    ((label.map (fun l => ["label=" ++ quote l])).getD [] ++ (sortAttrs attrs).map Attr.render)

/-- An attribute list in brackets after a space, or nothing when it is empty. -/
def attrList (label : Option String) (attrs : List Attr) : String :=
  let inside := attrText label attrs
  if inside.isEmpty then "" else " [" ++ inside ++ "]"

/-- One statement as a line. -/
def Stmt.render : Stmt → String
  | .graphAttr a => "\t" ++ attrText none [a] ++ "\n"
  | .defaults kind attrs => "\t" ++ kind ++ attrList none attrs ++ "\n"
  | .node id label attrs => "\t" ++ quote id ++ attrList (some label) attrs ++ "\n"
  | .edge tail head label attrs =>
    "\t" ++ quoteEnd tail ++ " -> " ++ quoteEnd head ++ attrList (some label) attrs ++ "\n"

/-- The text of a directed graph. -/
def Digraph.source (g : Digraph) : String :=
  "digraph \x7b\n" ++ String.join (g.body.map Stmt.render) ++ "\x7d\n"

end QueryDiagram.Dot
