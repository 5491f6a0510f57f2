import QueryDiagram.Query.Basic
import QueryDiagram.Sql.Token
import QueryDiagram.Text.Match

/-!
The `WHERE` conditions.

The clause is the text of the tokens after a plain `WHERE` keyword, joined by single spaces
and trimmed, up to a plain keyword starting with `GROUP` or reading `ORDER`, `HAVING` or
`LIMIT`; further `WHERE` keywords are left out. A *qualifier* is a word followed by a full
stop and a word character, once blanks around full stops are removed.

When the clause has no qualifier, it is kept whole under `_global`. Otherwise each qualifier
is a key, and the clause is cut at the connectives `AND` and `OR` (with blanks on both sides,
in any case); each trimmed piece is listed, once, under every key it qualifies. The cut does
not look inside quotes. Keys are sorted.
-/

namespace QueryDiagram.Query

open Sql Text

-- ============================================================ the clause

/-- The texts of the `WHERE` clause's tokens; `seen` tells whether a `WHERE` was passed. -/
def whereTexts (seen : Bool) : List Token → List String
  | [] => []
  | t :: rest =>
    if t.isKeyword "WHERE" then whereTexts true rest
    else if seen then
      if t.kind == .keyword &&
          (t.upperText.startsWith "GROUP" || ["ORDER", "HAVING", "LIMIT"].contains t.upperText) then
        []
      else t.text :: whereTexts seen rest
    else whereTexts seen rest

-- ============================================================ qualifiers

/-- Removes the blanks around every full stop. -/
def collapseDots : List Char → List Char
  | [] => []
  | c :: cs =>
    let b := spanLength isBlank (c :: cs)
    match _h : (c :: cs).drop b with
    | '.' :: rest => '.' :: collapseDots (rest.drop (spanLength isBlank rest))
    | _ => c :: collapseDots cs
termination_by l => l.length
decreasing_by
  · have := congrArg List.length _h
    simp only [List.length_drop, List.length_cons] at this ⊢
    omega
  · simp

/-- The words that stand before a full stop and a word character, read from left to right;
after each, the search goes on past the word after the full stop. -/
def qualifiersOf : List Char → List String
  | [] => []
  | c :: cs =>
    let w := spanLength isWordChar (c :: cs)
    match _h : (c :: cs).drop w with
    | '.' :: d :: rest =>
      if w > 0 && isWordChar d then
        String.ofList ((c :: cs).take w) :: qualifiersOf (rest.drop (spanLength isWordChar rest))
      else qualifiersOf cs
    | _ => qualifiersOf cs
termination_by l => l.length
decreasing_by
  · have := congrArg List.length _h
    simp only [List.length_drop, List.length_cons] at this ⊢
    omega
  · simp
  · simp

/-- The qualifiers of a text, once blanks around full stops are removed. -/
def qualifiers (cs : List Char) : List String := qualifiersOf (collapseDots cs)

-- ============================================================ connectives

/-- The length of a connective at the start: blanks, `AND` or `OR`, blanks. Kept from unfolding,
so that the equations of `cutAt` can be stated without evaluating it. -/
@[irreducible] def connectiveLength (cs : List Char) : Option Nat :=
  let b := spanLength isBlank cs
  let r := cs.drop b
  let word (w : String) : Option Nat :=
    if startsWithFold w.toList r then
      let b2 := spanLength isBlank (r.drop w.length)
      if b2 > 0 then some (b + w.length + b2) else none
    else none
  if b = 0 then none else word "AND" <|> word "OR"

/-- Cuts a text at its connectives; `piece` holds the current piece, reversed. -/
def cutAt (piece : List Char) : List Char → List (List Char)
  | [] => [piece.reverse]
  | c :: cs =>
    match connectiveLength (c :: cs) with
    | some n => piece.reverse :: cutAt [] (cs.drop (n - 1))
    | none => cutAt (c :: piece) cs
termination_by l => l.length
decreasing_by
  · simp only [List.length_drop, List.length_cons]; omega
  · simp

/-- The pieces of a text between its connectives. -/
def pieces (cs : List Char) : List (List Char) := cutAt [] cs

-- ============================================================ filters

/-- The distinct members of a list of texts, sorted. -/
def sortedKeys (ks : List String) : List String :=
  (ks.eraseDups).mergeSort fun a b => decide (a < b)

/-- The conditions of a statement's `WHERE` clause, keyed by the tables they qualify, or kept
whole under `_global`. -/
def filtersIn (ts : List Token) : List (String × List String) :=
  match whereTexts false ts with
  | [] => []
  | texts =>
    let clause := trimChars (" ".intercalate texts).toList
    match qualifiers clause with
    | [] => [("_global", [String.ofList clause])]
    | found =>
      let parts := (pieces clause).map trimChars
      (sortedKeys found).map fun k =>
        (k, ((parts.filter fun p => (qualifiers p).contains k).map String.ofList).eraseDups)

end QueryDiagram.Query
