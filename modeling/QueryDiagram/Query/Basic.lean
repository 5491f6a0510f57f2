/-!
What is read from a SELECT query.

A query reads as its tables (those after `FROM`, then one per join), its joins, the selected
columns grouped by the table that qualifies them, its `WHERE` conditions grouped by the
tables they mention, and its `GROUP BY` items. Reading fails on an empty text and on the
constructs the diagrams cannot show; each failure has one message.
-/

namespace QueryDiagram

-- ============================================================ joins and queries

/-- A join: its kind in upper case (`INNER` when none is written), the joined table, and the
condition after `ON` (empty when there is none). -/
structure Join where
  kind : String
  table : String
  condition : String
  deriving DecidableEq, Repr, Inhabited

/-- What is read from a SELECT query. `columns` keeps the order in which keys first appear;
its keys are tables, `*` for a wildcard and `_unknown` for unqualified columns. `filters` is
sorted by key; its keys are tables, or `_global` alone when no condition names a table. An
empty `groupBy` means the query has no `GROUP BY` items. -/
structure Query where
  tables : List String
  joins : List Join
  columns : List (String × List String)
  filters : List (String × List String)
  groupBy : List String
  deriving DecidableEq, Repr, Inhabited

-- ============================================================ failures

/-- The constructs a query may not use. -/
inductive Feature where
  /-- A common table expression `WITH name AS (`. -/
  | commonTable
  /-- A `UNION` or `UNION ALL` of selections. -/
  | union
  /-- A window function `OVER (`. -/
  | window
  /-- A subquery in the `FROM` clause. -/
  | fromSubquery
  /-- A subquery in the `WHERE` clause. -/
  | whereSubquery
  deriving DecidableEq, Repr, Inhabited

/-- The message that names an unsupported construct. -/
def Feature.message : Feature → String
  | .commonTable => "CTEs (WITH clauses) are not supported"
  | .union => "UNION / UNION ALL are not supported"
  | .window => "Window functions (OVER) are not supported"
  | .fromSubquery => "Subqueries in FROM clause are not supported"
  | .whereSubquery => "Subqueries in WHERE clause are not supported"

/-- Why a query cannot be read. -/
inductive QueryError where
  /-- The text is blank. -/
  | empty
  /-- The text uses a construct the diagrams cannot show. -/
  | unsupported (feature : Feature)
  deriving DecidableEq, Repr, Inhabited

/-- The message of a reading failure. -/
def QueryError.message : QueryError → String
  | .empty => "Empty SQL query"
  | .unsupported f => f.message

end QueryDiagram
