import QueryDiagram.Query.Columns

/-!
The `GROUP BY` items.

The list starts after the first plain keyword whose text starts with `GROUP` (and after a
`BY` token right behind it) and ends at a plain `ORDER`, `HAVING` or `LIMIT` keyword. A
keyword such as `ORDER BY`, read as one token, does not end it. Its items are names: a name, a
full stop and a name give `table.column`, any other name stands alone; everything else is
passed over. After a dotted item, or a full stop with no name after it, the scan passes one
token more.
-/

namespace QueryDiagram.Query

open Sql Text

/-- The tokens after the first keyword starting with `GROUP`, and after a `BY` right behind
it. -/
def afterGroup : List Token → List Token
  | [] => []
  | t :: rest =>
    if t.kind == .keyword && t.upperText.startsWith "GROUP" then
      match rest with
      | u :: more => if u.upperText == "BY" then more else rest
      | [] => []
    else afterGroup rest

/-- Reads the items of a `GROUP BY` list. -/
def groupItems : List Token → List String
  | [] => []
  | t :: rest =>
    if t.isKeywordIn ["ORDER", "HAVING", "LIMIT"] then []
    else if t.isFiller then groupItems rest
    else if t.isName then
      let name := trim t.text
      let f := fillerCount rest
      match _h : rest.drop f with
      | u :: more =>
        if u.text == "." then
          let g := fillerCount more
          match _h2 : more.drop g with
          | v :: after =>
            if v.isName then (name ++ "." ++ trim v.text) :: groupItems after
            else groupItems after
          | [] => []
        else name :: groupItems rest
      | [] => name :: groupItems rest
    else groupItems rest
termination_by ts => ts.length
decreasing_by
  · simp
  · have h1 := length_lt_of_drop_eq_cons _h
    have h3 := length_lt_of_drop_eq_cons _h2
    simp only [List.length_cons]
    omega
  · have h1 := length_lt_of_drop_eq_cons _h
    have h3 := length_lt_of_drop_eq_cons _h2
    simp only [List.length_cons]
    omega
  · simp
  · simp
  · simp

/-- The `GROUP BY` items of a statement, in order; empty when it has none. -/
def groupByIn (ts : List Token) : List String := groupItems (afterGroup ts)

end QueryDiagram.Query
