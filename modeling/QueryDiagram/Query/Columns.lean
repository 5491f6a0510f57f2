import QueryDiagram.Query.Basic
import QueryDiagram.Sql.Token

/-!
The selected columns.

The select list runs from the first `SELECT` to the first plain `FROM` keyword. Its items are
read one name at a time, passing over blanks and commas:

* a wildcard puts the key `*`, holding `*`, in the result once;
* a name, a full stop and a name put the second name under the first, a table;
* a name followed by an opening bracket is a call: the call, through its closing bracket,
  and an alias written with `AS` contribute nothing;
* any other name is an unqualified column, kept under `_unknown`.

Keys keep the order in which they first appear and columns the order in which they are
read. After a qualified column, or after a full stop with no name after it, the scan passes
one token more.
-/

namespace QueryDiagram.Query

open Sql Text

-- ============================================================ token counts

/-- The number of leading tokens that item lists pass over: blanks and commas. -/
def fillerCount (ts : List Token) : Nat := (ts.takeWhile Token.isFiller).length

/-- The number of tokens from a call's opening bracket through the bracket that closes it,
or to the end; `depth` counts the brackets open before the first token. -/
def callCount (depth : Int) : List Token → Nat
  | [] => 0
  | t :: rest =>
    if t.text == "(" then callCount (depth + 1) rest + 1
    else if t.text == ")" then
      if depth - 1 == 0 then 1 else callCount (depth - 1) rest + 1
    else callCount depth rest + 1

/-- The number of tokens a call and its alias cover: the call, the blanks and commas after
it, and an `AS` with the blanks and commas after it and a name. -/
def callWithAliasCount (ts : List Token) : Nat :=
  let c := callCount 0 ts
  let f := fillerCount (ts.drop c)
  match ts.drop (c + f) with
  | u :: more =>
    if u.upperText == "AS" then
      let g := fillerCount more
      match more.drop g with
      | v :: _ => if v.isName then c + f + 1 + g + 1 else c + f + 1 + g
      | [] => c + f + 1 + g
    else c + f
  | [] => c + f

/-- What is left after a drop that still has a head is shorter than the list. -/
theorem length_lt_of_drop_eq_cons {α : Type} {l xs : List α} {n : Nat} {x : α}
    (h : l.drop n = x :: xs) : xs.length < l.length := by
  have := congrArg List.length h
  simp only [List.length_drop, List.length_cons] at this
  omega

-- ============================================================ keyed lists

/-- Appends `v` to the list under the key `k`; a new key goes at the end. -/
def pushUnder (k v : String) : List (String × List String) → List (String × List String)
  | [] => [(k, [v])]
  | (k', vs) :: rest => if k' == k then (k', vs ++ [v]) :: rest else (k', vs) :: pushUnder k v rest

/-- The keys of a keyed list. -/
def keysOf (kvs : List (String × List String)) : List String := kvs.map (·.1)

-- ============================================================ the select list

/-- The tokens after the first `SELECT` keyword. -/
def afterSelect : List Token → List Token
  | [] => []
  | t :: rest =>
    if (t.kind == .keyword || t.kind == .statement) && t.upperText == "SELECT" then rest
    else afterSelect rest

/-- Reads the items of a select list into `acc`, up to the first plain `FROM`. -/
def selectItems : List Token → List (String × List String) → List (String × List String)
  | [], acc => acc
  | t :: rest, acc =>
    if t.isKeyword "FROM" then acc
    else if t.isFiller then selectItems rest acc
    else if t.kind == .wildcard || t.text == "*" then
      selectItems rest (if (keysOf acc).contains "*" then acc else acc ++ [("*", ["*"])])
    else if t.isName then
      let name := trim t.text
      let f := fillerCount rest
      match _h : rest.drop f with
      | u :: more =>
        if u.text == "(" then selectItems ((u :: more).drop (callWithAliasCount (u :: more))) acc
        else if u.text == "." then
          let g := fillerCount more
          match _h2 : more.drop g with
          | v :: after =>
            selectItems after (if v.isName then pushUnder name (trim v.text) acc else acc)
          | [] => acc
        else selectItems rest (pushUnder "_unknown" name acc)
      | [] => selectItems rest (pushUnder "_unknown" name acc)
    else selectItems rest acc
termination_by ts => ts.length
decreasing_by
  · simp
  · simp
  · have := congrArg List.length _h
    simp only [List.length_drop, List.length_cons] at this ⊢
    omega
  · have h1 := length_lt_of_drop_eq_cons _h
    have h3 := length_lt_of_drop_eq_cons _h2
    simp only [List.length_cons]
    omega
  · simp
  · simp
  · simp

/-- The selected columns of a statement, keyed by table, `*` or `_unknown`. -/
def columnsIn (ts : List Token) : List (String × List String) :=
  selectItems (afterSelect ts) []

end QueryDiagram.Query
