/-!
The diagram store.

A diagram holds one node per table, in the order the tables were added, and the join edges
in the order they were added. A node shows the table's selected columns and conditions, each
listed once, and carries an aggregation mark. The mark is whatever the caller stored; the
diagram only asks whether it is set, so a store built from a query holds truth values while a
caller may keep marks of its own kind.

Main statements: adding a table keeps the existing nodes and appends at most one
(`names_addTable`, `nodes_addTable`), adding a join appends exactly one edge
(`edges_addJoin`).
-/

namespace QueryDiagram

-- ============================================================ marks

/-- A kind of aggregation mark: the mark a new node carries, and whether a mark is set. -/
class Mark (μ : Type) where
  unset : μ
  isSet : μ → Bool

/-- Truth values as marks: a new node is unmarked. -/
instance : Mark Bool := ⟨false, id⟩

-- ============================================================ nodes and edges

/-- A table node: the table's name, its selected columns, its conditions and its mark. -/
structure TableNode (μ : Type) where
  name : String
  columns : List String
  filters : List String
  mark : μ
  deriving Repr

/-- A join edge from the table it starts at to the joined table, with the join's kind and
condition. -/
structure JoinEdge where
  source : String
  target : String
  kind : String
  condition : String
  deriving DecidableEq, Repr

namespace TableNode

variable {μ : Type}

/-- A node for a table with nothing on it yet. -/
def fresh [Mark μ] (name : String) : TableNode μ := ⟨name, [], [], Mark.unset⟩

/-- Adds a column unless the node shows it already. -/
def addColumn (n : TableNode μ) (c : String) : TableNode μ :=
  if n.columns.contains c then n else { n with columns := n.columns ++ [c] }

/-- Appends a column even if the node shows it already. -/
def pushColumn (n : TableNode μ) (c : String) : TableNode μ :=
  { n with columns := n.columns ++ [c] }

/-- Adds a condition unless the node shows it already. -/
def addFilter (n : TableNode μ) (f : String) : TableNode μ :=
  if n.filters.contains f then n else { n with filters := n.filters ++ [f] }

/-- Adding a condition keeps the node's name. -/
@[simp] theorem name_addFilter (n : TableNode μ) (f : String) : (n.addFilter f).name = n.name := by
  unfold addFilter
  split <;> rfl

/-- Adding a column keeps the node's mark. -/
@[simp] theorem mark_addColumn (n : TableNode μ) (c : String) : (n.addColumn c).mark = n.mark := by
  unfold addColumn
  split <;> rfl

/-- Adding a condition keeps the node's mark. -/
@[simp] theorem mark_addFilter (n : TableNode μ) (f : String) : (n.addFilter f).mark = n.mark := by
  unfold addFilter
  split <;> rfl

/-- Replaces the node's mark. -/
def setMark (n : TableNode μ) (m : μ) : TableNode μ := { n with mark := m }

end TableNode

-- ============================================================ the store

/-- A diagram: its table nodes in the order added, one per name, and its join edges in the
order added. -/
structure Diagram (μ : Type) where
  nodes : List (TableNode μ)
  edges : List JoinEdge
  deriving Repr

namespace Diagram

variable {μ : Type}

/-- The diagram with no tables. -/
def empty : Diagram μ := ⟨[], []⟩

/-- The names of the tables, in the order added. -/
def names (g : Diagram μ) : List String := g.nodes.map (·.name)

/-- The names of the tables, sorted. -/
def sortedNames (g : Diagram μ) : List String := g.names.mergeSort fun a b => decide (a < b)

/-- Adds a node for a table unless the diagram has one. -/
def addTable [Mark μ] (g : Diagram μ) (name : String) : Diagram μ :=
  if g.names.contains name then g else { g with nodes := g.nodes ++ [TableNode.fresh name] }

/-- Changes the node of a table. -/
def modify (g : Diagram μ) (name : String) (f : TableNode μ → TableNode μ) : Diagram μ :=
  { g with nodes := g.nodes.map fun n => if n.name == name then f n else n }

/-- Adds a join edge, and nodes for its two tables where missing. -/
def addJoin [Mark μ] (g : Diagram μ) (source target kind condition : String) : Diagram μ :=
  let g := (g.addTable source).addTable target
  { g with edges := g.edges ++ [⟨source, target, kind, condition⟩] }

/-- Adds a column to a table's node, adding the node where missing. -/
def addColumn [Mark μ] (g : Diagram μ) (table column : String) : Diagram μ :=
  (g.addTable table).modify table (·.addColumn column)

/-- Adds a condition to a table's node, adding the node where missing. -/
def addFilter [Mark μ] (g : Diagram μ) (table condition : String) : Diagram μ :=
  (g.addTable table).modify table (·.addFilter condition)

/-- Stores a mark on a table's node, adding the node where missing. -/
def setMark [Mark μ] (g : Diagram μ) (table : String) (m : μ) : Diagram μ :=
  (g.addTable table).modify table (·.setMark m)

-- ============================================================ what the operations do

/-- Adding a table keeps the names there and appends the new one if it is missing. -/
theorem names_addTable [Mark μ] (g : Diagram μ) (name : String) :
    (g.addTable name).names = if g.names.contains name then g.names else g.names ++ [name] := by
  unfold addTable
  split <;> simp_all [names, TableNode.fresh]

/-- Adding a table keeps the nodes there and appends one for a missing name. -/
theorem nodes_addTable [Mark μ] (g : Diagram μ) (name : String) :
    (g.addTable name).nodes =
      if g.names.contains name then g.nodes else g.nodes ++ [TableNode.fresh name] := by
  unfold addTable
  split <;> rfl

/-- Adding a table that has a node changes nothing. -/
theorem addTable_of_mem [Mark μ] {g : Diagram μ} {name : String} (h : name ∈ g.names) :
    g.addTable name = g := by
  simp [addTable, h]

/-- After adding a table, the tables are those before and the added one. -/
theorem mem_names_addTable [Mark μ] (g : Diagram μ) (name t : String) :
    t ∈ (g.addTable name).names ↔ t ∈ g.names ∨ t = name := by
  by_cases h : name ∈ g.names
  · rw [addTable_of_mem h]
    exact ⟨.inl, fun ht => ht.elim id (· ▸ h)⟩
  · simp [names_addTable, h]

/-- Adding a table keeps the edges. -/
@[simp] theorem edges_addTable [Mark μ] (g : Diagram μ) (name : String) :
    (g.addTable name).edges = g.edges := by
  unfold addTable
  split <;> rfl

/-- Changing nodes keeps the edges. -/
@[simp] theorem edges_modify (g : Diagram μ) (name : String) (f : TableNode μ → TableNode μ) :
    (g.modify name f).edges = g.edges := rfl

/-- Changing nodes keeps their names. -/
theorem names_modify (g : Diagram μ) (name : String) (f : TableNode μ → TableNode μ)
    (hf : ∀ n, (f n).name = n.name) : (g.modify name f).names = g.names := by
  simp only [modify, names, List.map_map]
  congr 1
  funext n
  simp only [Function.comp]
  split <;> simp_all

/-- Adding a join appends its edge. -/
theorem edges_addJoin [Mark μ] (g : Diagram μ) (source target kind condition : String) :
    (g.addJoin source target kind condition).edges =
      g.edges ++ [⟨source, target, kind, condition⟩] := by
  simp only [addJoin, addTable]
  split <;> split <;> rfl

/-- A join's nodes are those of its two tables added in turn. -/
theorem nodes_addJoin [Mark μ] (g : Diagram μ) (source target kind condition : String) :
    (g.addJoin source target kind condition).nodes = ((g.addTable source).addTable target).nodes :=
  rfl

end Diagram

end QueryDiagram
