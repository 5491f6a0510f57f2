import QueryDiagram.Query.Basic
import QueryDiagram.Sql.Token
import QueryDiagram.Text.Match

/-!
The joins of a query.

Joins are first looked for in the text. A join there is, at a word boundary, an optional
kind (`INNER`, `LEFT`, `RIGHT` or `FULL`), blanks, `JOIN`, blanks, a table word, blanks,
`ON`, blanks and a condition; the condition runs to the first place where blanks and a clause
word (`WHERE`, `GROUP`, `ORDER`, `HAVING`, `LIMIT`) follow, or to the end of the text. The
search goes on after each join found, so a condition may hold later joins. Letters match
either case and the kind is reported in upper case.

When the text holds no such join, the tokens are searched instead: each plain `JOIN` keyword
(or a kind keyword followed at once by a `JOIN` token) is followed by the first name after
it, and by the tokens after an `ON`, joined by single spaces, up to a clause word outside
brackets. A join keyword read as one token with its kind, like `LEFT JOIN`, is not a plain
`JOIN`, so the tokens hold no join of that form.
-/

namespace QueryDiagram.Query

open Sql Text

/-- The join kinds that may precede `JOIN`. -/
def joinKinds : List String := ["INNER", "LEFT", "RIGHT", "FULL"]

/-- The words that end a join condition. -/
def clauseWords : List String := ["WHERE", "GROUP", "ORDER", "HAVING", "LIMIT"]

-- ============================================================ joins in the text

/-- Blanks and then a clause word ending at a word boundary: a join condition stops before
this. -/
def clauseAhead (cs : List Char) : Bool :=
  let b := spanLength isBlank cs
  b > 0 && clauseWords.any fun w =>
    startsWithFold w.toList (cs.drop b) && endsWord (cs.drop (b + w.length))

/-- The length of a join condition starting at the head of `cs`: one character at least, and
on to the first position where the text ends or a clause word follows blanks. -/
def conditionLength : List Char → Nat
  | [] => 0
  | _ :: rest => if rest.isEmpty || clauseAhead rest then 1 else conditionLength rest + 1

/-- What follows the kind of a join in the text: blanks, `JOIN`, blanks, the table word,
blanks, `ON`, blanks and the condition. Gives the table, the condition and the length. -/
def joinTail (cs : List Char) : Option (String × String × Nat) :=
  let b1 := spanLength isBlank cs
  let r1 := cs.drop b1
  if b1 = 0 || !startsWithFold "JOIN".toList r1 then none
  else
    let r2 := r1.drop 4
    let b2 := spanLength isBlank r2
    let r3 := r2.drop b2
    let w := spanLength isWordChar r3
    let r4 := r3.drop w
    let b3 := spanLength isBlank r4
    let r5 := r4.drop b3
    if b2 = 0 || w = 0 || b3 = 0 || !startsWithFold "ON".toList r5 then none
    else
      let r6 := r5.drop 2
      let b4 := spanLength isBlank r6
      let r7 := r6.drop b4
      if b4 = 0 || r7.isEmpty then none
      else
        let c := conditionLength r7
        some (String.ofList (r3.take w), String.ofList (r7.take c),
          b1 + 4 + b2 + w + b3 + 2 + b4 + c)

/-- A join written at the start of `cs`, given the character before it: the join and its
length. A written kind must start at a word boundary; without one, the blanks before `JOIN`
must follow a word character. -/
def joinAt (prev : Option Char) (cs : List Char) : Option (Join × Nat) :=
  if !isBoundary prev cs.head? then none
  else
    let written := (joinKinds.find? fun k => startsWithFold k.toList cs).map (·.length)
    let k := written.getD 0
    (joinTail (cs.drop k)).map fun (table, condition, n) =>
      let kind := if k = 0 then "INNER" else upper (String.ofList (cs.take k))
      (⟨kind, table, trim condition⟩, k + n)

/-- The joins written in the text, searched from left to right, given the character before
it; each search goes on after the join it found. -/
def joinsFrom (prev : Option Char) : List Char → List Join
  | [] => []
  | c :: cs =>
    match joinAt prev (c :: cs) with
    | some (j, n) =>
      let passed := c :: cs.take (n - 1)
      j :: joinsFrom (some (passed.getLast (List.cons_ne_nil _ _))) (cs.drop (n - 1))
    | none => joinsFrom (some c) cs
termination_by l => l.length
decreasing_by
  · simp only [List.length_drop, List.length_cons]; omega
  · simp

/-- The joins written in a query text. -/
def joinsInText (sql : String) : List Join := joinsFrom none sql.toList

-- ============================================================ joins in the tokens

/-- The condition after `ON`: the texts of the tokens before the first clause word met
outside brackets, and how many tokens they are. Brackets are counted before the test, so a
clause word right after a closing bracket that returns to the outside stops the condition. -/
def conditionTokens (depth : Int) : List Token → List String × Nat
  | [] => ([], 0)
  | t :: rest =>
    let d := if t.text == "(" then depth + 1 else if t.text == ")" then depth - 1 else depth
    if clauseWords.contains t.upperText && d == 0 then ([], 0)
    else
      let (texts, n) := conditionTokens d rest
      (t.text :: texts, n + 1)

/-- After the joined table: the condition after `ON`, if an `ON` comes before a clause
keyword, and how many tokens the scan passes. -/
def conditionAfterTable : List Token → Option String × Nat
  | [] => (none, 0)
  | t :: rest =>
    if t.isKeyword "ON" then
      let (texts, n) := conditionTokens 0 rest
      (some (trim (" ".intercalate texts)), n + 1)
    else if t.isKeywordIn clauseWords then (none, 0)
    else
      let (found, n) := conditionAfterTable rest
      (found, n + 1)

/-- The join after a join keyword of kind `kind`, and how many tokens the scan passes: the
joined table is the first name, the condition is the one after `ON`. -/
def joinAfterKeyword (kind : String) (ts : List Token) : Option Join × Nat :=
  let skipped := (ts.takeWhile (!·.isName)).length
  match ts.drop skipped with
  | [] => (none, skipped)
  | t :: rest =>
    let table := trim t.text
    if table.isEmpty then (none, skipped + 2)
    else
      let (condition, n) := conditionAfterTable rest
      (some ⟨kind, table, condition.getD ""⟩, skipped + 1 + n)

/-- The joins that the tokens spell with a plain `JOIN` keyword, or with a kind keyword
followed at once by a token reading `JOIN`. -/
def joinsInTokens : List Token → List Join
  | [] => []
  | t :: rest =>
    if t.kind == .keyword && joinKinds.contains t.upperText then
      match _h : rest with
      | u :: more =>
        if u.upperText == "JOIN" then
          let (j, n) := joinAfterKeyword t.upperText more
          j.toList ++ joinsInTokens (more.drop n)
        else joinsInTokens rest
      | [] => []
    else if t.isKeyword "JOIN" then
      let (j, n) := joinAfterKeyword "INNER" rest
      j.toList ++ joinsInTokens (rest.drop n)
    else joinsInTokens rest
termination_by ts => ts.length
decreasing_by
  · simp only [List.length_drop, List.length_cons]; omega
  · simp [_h]
  · simp only [List.length_drop, List.length_cons]; omega
  · simp

-- ============================================================ both

/-- The joins of a query: those written in its text, or, when there are none, those its
statement's tokens spell. -/
def joinsIn (sql : String) (ts : List Token) : List Join :=
  match joinsInText sql with
  | [] => joinsInTokens ts
  | js => js

end QueryDiagram.Query
