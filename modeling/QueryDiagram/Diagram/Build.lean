import QueryDiagram.Diagram.Graph
import QueryDiagram.Query.Filters
import QueryDiagram.Text.Case

/-!
Building a diagram from a query.

The builder reads an *outline*: the parts of a read query, with joins that may lack a table.
It adds a node per table, then each join with a table: the join starts at a table that its
condition qualifies, that is already known and that is not the joined table, or else at the
table known last. Known tables are those of the outline and the joined tables before. The
tables a condition qualifies form a set, gone through in a `SetOrder`; when several qualify,
that order picks one.

Columns and conditions go to the node their key names regardless of case; unqualified
columns and conditions go to the first node, and a wildcard puts `*` on every node. A
`GROUP BY` item `t.c` marks the node of `t`; the first item without a full stop marks the
first node and ends the marking.
-/

namespace QueryDiagram

open Text

-- ============================================================ outlines

/-- A join as the builder reads it: the joined table (empty when missing), the kind (`INNER`
when missing) and the condition (empty when missing). -/
structure JoinSpec where
  table : String := ""
  kind : String := "INNER"
  condition : String := ""
  deriving DecidableEq, Repr

/-- What the builder reads: tables, joins, columns and conditions by key, and `GROUP BY`
items. -/
structure Outline where
  tables : List String
  joins : List JoinSpec
  columns : List (String × List String)
  filters : List (String × List String)
  groupBy : List String
  deriving DecidableEq, Repr

/-- The outline of a read query. -/
def Query.outline (q : Query) : Outline where
  tables := q.tables
  joins := q.joins.map fun j => ⟨j.table, j.kind, j.condition⟩
  columns := q.columns
  filters := q.filters
  groupBy := q.groupBy

namespace Diagram

-- ============================================================ set orders

/-- An order in which the builder may go through the set of tables that a join condition
qualifies: the tables of the condition and no others, in an order that depends on the
condition alone. A set has no order of its own; the running builder takes the tables as the
condition names them (`SetOrder.asWritten`). -/
structure SetOrder where
  enum : List String → List String
  mem_enum : ∀ xs x, x ∈ enum xs ↔ x ∈ xs

/-- The tables in the order the condition names them. -/
def SetOrder.asWritten : SetOrder := ⟨id, fun _ _ => Iff.rfl⟩

-- ============================================================ joins

/-- The table a join starts from, given the tables known so far: the first table, in the set
order, that the condition qualifies, that is known and that is not the joined table, or else
the table known last. -/
def joinSource (order : SetOrder) (known : List String) (target condition : String) :
    Option String :=
  match (order.enum (Query.qualifiersOf condition.toList)).find?
      fun t => known.contains t && t != target with
  | some t => some t
  | none => known.getLast?

/-- Adds the joins that have a table and a non-empty source table, in order. -/
def addJoins (order : SetOrder) (g : Diagram Bool) (known : List String) :
    List JoinSpec → Diagram Bool
  | [] => g
  | j :: rest =>
    let target := trim j.table
    if target.isEmpty then addJoins order g known rest
    else
      match joinSource order known target j.condition with
      | some source =>
        if source.isEmpty then addJoins order g known rest
        else
          addJoins order (g.addJoin source target j.kind j.condition)
            (if known.contains target then known else known ++ [target]) rest
      | none => addJoins order g known rest

-- ============================================================ columns, conditions, marks

/-- The table that a key names regardless of case: the last one whose lower case is the
key's. -/
def lookupName {μ : Type} (g : Diagram μ) (key : String) : Option String :=
  (g.names.filter fun n => lower n == lower key).getLast?

/-- Adds each column to the node of `table`. -/
def addColumnsTo {μ : Type} (g : Diagram μ) (table : String) (cols : List String) : Diagram μ :=
  cols.foldl (fun g c => g.modify table (·.addColumn c)) g

/-- Adds each condition to the node of `table`. -/
def addFiltersTo {μ : Type} (g : Diagram μ) (table : String) (fs : List String) : Diagram μ :=
  fs.foldl (fun g f => g.modify table (·.addFilter f)) g

/-- Places the columns by key: `*` on every node, `_unknown` on the first node, and any other
key on the node it names. -/
def placeColumns (g : Diagram Bool) (first : Option String) :
    List (String × List String) → Diagram Bool
  | [] => g
  | (k, cols) :: rest =>
    let g :=
      if k == "*" then { g with nodes := g.nodes.map (·.pushColumn "*") }
      else if k == "_unknown" then (first.map (addColumnsTo g · cols)).getD g
      else ((lookupName g k).map (addColumnsTo g · cols)).getD g
    placeColumns g first rest

/-- Places the conditions by key: `_global` on the first node, any other key on the node it
names. -/
def placeFilters (g : Diagram Bool) (first : Option String) :
    List (String × List String) → Diagram Bool
  | [] => g
  | (k, fs) :: rest =>
    let g :=
      if k == "_global" then (first.map (addFiltersTo g · fs)).getD g
      else ((lookupName g k).map (addFiltersTo g · fs)).getD g
    placeFilters g first rest

/-- Marks the nodes of the `GROUP BY` items: `t.c` marks the node of `t`, and the first item
without a full stop marks the first node and ends the marking. -/
def markGroups (g : Diagram Bool) : List String → Diagram Bool
  | [] => g
  | item :: rest =>
    if item.toList.contains '.' then
      let table := trim (String.ofList (item.toList.takeWhile (· != '.')))
      markGroups (((lookupName g table).map (g.modify · (·.setMark true))).getD g) rest
    else ((g.names.head?).map (g.modify · (·.setMark true))).getD g

-- ============================================================ the builder

/-- The diagram of an outline, going through the tables of each join condition in the set
order `order`. -/
def ofOutlineBy (order : SetOrder) (o : Outline) : Diagram Bool :=
  let g := addJoins order (o.tables.foldl Diagram.addTable Diagram.empty) o.tables o.joins
  let first := g.names.head?
  markGroups (placeFilters (placeColumns g first o.columns) first o.filters) o.groupBy

/-- The diagram of an outline. -/
def ofOutline (o : Outline) : Diagram Bool := ofOutlineBy .asWritten o

/-- The diagram of a read query. -/
def ofQuery (q : Query) : Diagram Bool := ofOutline q.outline

end Diagram

end QueryDiagram
