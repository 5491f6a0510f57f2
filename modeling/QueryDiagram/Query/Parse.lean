import QueryDiagram.Query.Unsupported
import QueryDiagram.Query.Tables
import QueryDiagram.Query.Joins
import QueryDiagram.Query.Columns
import QueryDiagram.Query.Filters
import QueryDiagram.Query.Grouping
import QueryDiagram.Sql.Lexer
import QueryDiagram.Sql.Statement

/-!
Reading a query.

A query text is trimmed; a blank text is refused, and so is a text that uses a construct the
diagrams cannot show. Otherwise the clause readers run over the tokens of its first
statement, the joins also over the trimmed text, and the tables of the joins follow those
after `FROM`.
-/

namespace QueryDiagram.Query

open Sql Text

/-- Reads a SELECT query, or says why it cannot be read. -/
def parse (sql : String) : Except QueryError Query :=
  let text := trim sql
  if text.isEmpty then .error .empty
  else
    match Feature.find? text with
    | some f => .error (.unsupported f)
    | none =>
      let ts := firstStatement (tokenize text)
      let joins := joinsIn text ts
      .ok {
        tables := tablesIn ts ++ joins.map (·.table)
        joins := joins
        columns := columnsIn ts
        filters := filtersIn ts
        groupBy := groupByIn ts }

end QueryDiagram.Query
