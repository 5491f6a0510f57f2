import QueryDiagram.Query.Basic
import QueryDiagram.Sql.Token

/-!
The tables after `FROM`.

After each plain `FROM` keyword, the first name before a stop keyword is a table; an `AS` or
a second name written right after it is its alias and is passed over. Each table is listed
once, in the order it is first met. Only the first name counts, so `FROM a, b` lists `a`
alone; the join tables are added by the join reader.
-/

namespace QueryDiagram.Query

open Sql Text

/-- Plain keywords that end the search for a table after `FROM`. -/
def tableStops : List String :=
  ["WHERE", "GROUP", "ORDER", "HAVING", "LIMIT", "INNER", "LEFT", "RIGHT", "FULL"]

/-- The table after a `FROM`: the first name before a stop keyword, if any, and the number of
tokens the scan passes before it looks for the next `FROM`: through the stop keyword, or
through the name together with an `AS` and one more token, or with a second name, written
right after it. -/
def tableAfterFrom : List Token → Option String × Nat
  | [] => (none, 0)
  | t :: rest =>
    if t.isKeywordIn tableStops then (none, 1)
    else if t.isName then
      let name := trim t.text
      if name != "" && upper name != "AS" then
        let passed : Nat :=
          match rest with
          | u :: _ => if u.upperText == "AS" then 3 else if u.isName then 2 else 1
          | [] => 1
        (some name, passed)
      else (none, 1)
    else
      let (found, n) := tableAfterFrom rest
      (found, n + 1)

/-- Adds a table to the list unless it is there already. -/
def addTableName (acc : List String) (name : String) : List String :=
  if acc.contains name then acc else acc ++ [name]

/-- The tables named after each `FROM` of `ts`, added to `acc`. -/
def tablesFrom : List Token → List String → List String
  | [], acc => acc
  | t :: rest, acc =>
    if t.isKeyword "FROM" then
      let (found, n) := tableAfterFrom rest
      tablesFrom (rest.drop n) ((found.map (addTableName acc)).getD acc)
    else tablesFrom rest acc
termination_by ts => ts.length
decreasing_by
  · simp only [List.length_drop, List.length_cons]; omega
  · simp

/-- The tables named after the `FROM` keywords of a statement, each once. -/
def tablesIn (ts : List Token) : List String := tablesFrom ts []

end QueryDiagram.Query
