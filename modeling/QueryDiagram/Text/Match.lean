import QueryDiagram.Text.Blank
import QueryDiagram.Text.Word

/-!
Matching text at a position.

The readers of this library look at a list of characters from some position on: how many
characters of a class follow, whether a word follows regardless of case, whether a word ends
there. Case is ignored the way SQL patterns ignore it: ASCII letters match either case, and
the letters that fold onto `i`, `s` and `k` match those too. Plain search finds where a
text occurs first or last.
-/

namespace QueryDiagram.Text

/-- The number of leading characters that satisfy `p`. -/
def spanLength (p : Char → Bool) : List Char → Nat
  | [] => 0
  | c :: cs => if p c then spanLength p cs + 1 else 0

/-- An input character `c` matches a pattern character `p` of a rule regardless of case:
letters match either case, and `i` also matches the dotless `ı` and the dotted `İ`, `s` the
long `ſ`, `k` the Kelvin sign; other pattern characters match only themselves. -/
def foldEq (p c : Char) : Bool :=
  if p.isAlpha then
    c.toLower == p.toLower ||
      (p.toLower == 'i' && (c == 'ı' || c == 'İ')) ||
      (p.toLower == 's' && c == 'ſ') ||
      (p.toLower == 'k' && c == 'K')
  else c == p

/-- Whether the input starts with the pattern, compared by `foldEq`. -/
def startsWithFold : List Char → List Char → Bool
  | [], _ => true
  | _ :: _, [] => false
  | p :: ps, c :: cs => foldEq p c && startsWithFold ps cs

/-- The position after a word ends at a word boundary: no word character follows. -/
def endsWord : List Char → Bool
  | [] => true
  | c :: _ => !isWordChar c

/-- Whether `cs` starts with `pat`, comparing characters by `same`. -/
def startsWithBy (same : Char → Char → Bool) : List Char → List Char → Bool
  | [], _ => true
  | _ :: _, [] => false
  | p :: ps, c :: cs => same p c && startsWithBy same ps cs

/-- The offset of the first occurrence of `pat` in `cs`, comparing characters by `same`. -/
def findBy (same : Char → Char → Bool) (pat : List Char) : List Char → Option Nat
  | [] => if pat.isEmpty then some 0 else none
  | c :: cs =>
    if startsWithBy same pat (c :: cs) then some 0 else (findBy same pat cs).map (· + 1)

/-- Where a text first occurs, counted in characters. -/
def indexOf? (pat cs : List Char) : Option Nat := findBy (· == ·) pat cs

/-- Whether a text occurs. -/
def occursIn (pat cs : List Char) : Bool := (indexOf? pat cs).isSome

/-- Where a text last occurs, counted in characters: its first occurrence in the reversed
text, counted back from the end. -/
def lastIndexOf? (pat cs : List Char) : Option Nat :=
  (indexOf? pat.reverse cs.reverse).map fun i => cs.length - i - pat.length

end QueryDiagram.Text
