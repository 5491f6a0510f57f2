import QueryDiagram.Query.Basic
import QueryDiagram.Text.Match
import QueryDiagram.Text.Case

/-!
Finding the constructs a query may not use.

The search runs over the upper-cased query text, so the words below are matched exactly. A
construct is found when its words stand anywhere in the text, in strings and comments too:

* a common table expression: `WITH`, a word, `AS` and an opening bracket;
* a union: `UNION`, optionally `ALL`, then `SELECT`;
* a window: `OVER` and an opening bracket;
* a subquery in `FROM`: `FROM`, an opening bracket, and `SELECT` before the next closing one;
* a subquery in `WHERE`: `WHERE`, a blank, an opening bracket before the next `=`, and
  `SELECT` before the next closing bracket.

The first three words start at a word boundary. When several constructs are present, the
first in this order is reported.
-/

namespace QueryDiagram.Feature

open Text

-- ============================================================ pieces

/-- Whether `cs` starts with the word `w`, exactly. -/
def startsWithWord (w : String) (cs : List Char) : Bool :=
  startsWithBy (· == ·) w.toList cs

/-- The characters after `cs`'s leading blanks. -/
def dropBlanks (cs : List Char) : List Char := cs.drop (spanLength isBlank cs)

/-- `SELECT` occurs before the first closing bracket. -/
def selectBeforeClose : List Char → Bool
  | [] => false
  | c :: cs => startsWithWord "SELECT" (c :: cs) || (c != ')' && selectBeforeClose cs)

/-- An opening bracket stands before the first `=` and is followed by `SELECT` before the
next closing bracket. -/
def subqueryBeforeEquals : List Char → Bool
  | [] => false
  | c :: cs => c != '=' && ((c == '(' && selectBeforeClose cs) || subqueryBeforeEquals cs)

/-- Whether `test` holds at some position of `cs`, given the character before it. -/
def existsAt (test : Option Char → List Char → Bool) : Option Char → List Char → Bool
  | prev, [] => test prev []
  | prev, c :: cs => test prev (c :: cs) || existsAt test (some c) cs

/-- A word starts here at a word boundary. -/
def wordStart (w : String) (prev : Option Char) (cs : List Char) : Bool :=
  !(prev.map isWordChar).getD false && startsWithWord w cs

-- ============================================================ the constructs

/-- `WITH`, blanks, a word, blanks, `AS`, optional blanks and an opening bracket. -/
def commonTableAt (prev : Option Char) (cs : List Char) : Bool :=
  wordStart "WITH" prev cs &&
    (let r := cs.drop 4
     let b := spanLength isBlank r
     let r := r.drop b
     let w := spanLength isWordChar r
     let r := r.drop w
     let b2 := spanLength isBlank r
     b > 0 && w > 0 && b2 > 0 && startsWithWord "AS" (r.drop b2) &&
       (dropBlanks ((r.drop b2).drop 2)).head? == some '(')

/-- `UNION`, blanks, optionally `ALL` and blanks, then the word `SELECT`. -/
def unionAt (prev : Option Char) (cs : List Char) : Bool :=
  wordStart "UNION" prev cs &&
    (let r := cs.drop 5
     let b := spanLength isBlank r
     let r := r.drop b
     let selectHere (t : List Char) := startsWithWord "SELECT" t && endsWord (t.drop 6)
     b > 0 &&
       ((startsWithWord "ALL" r &&
          (let r2 := r.drop 3
           spanLength isBlank r2 > 0 && selectHere (dropBlanks r2))) ||
        selectHere r))

/-- `OVER`, optional blanks and an opening bracket. -/
def windowAt (prev : Option Char) (cs : List Char) : Bool :=
  wordStart "OVER" prev cs && (dropBlanks (cs.drop 4)).head? == some '('

/-- `FROM`, optional blanks, an opening bracket and `SELECT` before the closing one. -/
def fromSubqueryAt (_ : Option Char) (cs : List Char) : Bool :=
  startsWithWord "FROM" cs &&
    (match dropBlanks (cs.drop 4) with
     | '(' :: rest => selectBeforeClose rest
     | _ => false)

/-- `WHERE`, a blank, and an opening bracket before the next `=` that `SELECT` follows
before the next closing bracket. -/
def whereSubqueryAt (_ : Option Char) (cs : List Char) : Bool :=
  startsWithWord "WHERE" cs &&
    (match cs.drop 5 with
     | b :: rest => isBlank b && subqueryBeforeEquals rest
     | [] => false)

/-- Each construct with the test that finds it at a position, in the order of report. -/
def tests : List (Feature × (Option Char → List Char → Bool)) :=
  [(.commonTable, commonTableAt), (.union, unionAt), (.window, windowAt),
    (.fromSubquery, fromSubqueryAt), (.whereSubquery, whereSubqueryAt)]

/-- The first construct found in the upper-cased text `cs`. -/
def findIn (cs : List Char) : Option Feature :=
  (tests.find? fun (_, test) => existsAt test none cs).map (·.1)

/-- The first construct found in a query text, searched in its upper case. -/
def find? (sql : String) : Option Feature := findIn (upperChars sql.toList)

end QueryDiagram.Feature
