/-!
Blank characters and trimming.

A character is *blank* when the Unicode database gives it the bidirectional class WS, B or S,
or the general category Zs. Query text is split at blanks and trimmed of them throughout the
library, and the renderer's output is judged empty by the same set. Main statement:
every character core calls whitespace is blank.
-/

namespace QueryDiagram.Text

-- ============================================================ blank characters

/-- Blank characters: tab to carriage return, the four information separators and space,
next line, no-break space, the Ogham space mark, the spaces U+2000 to U+200A, the line and
paragraph separators, the narrow no-break space, the medium mathematical space and the
ideographic space. -/
def isBlank (c : Char) : Bool :=
  let n := c.toNat
  (9 ≤ n && n ≤ 13) || (28 ≤ n && n ≤ 32) || n == 0x85 || n == 0xA0 || n == 0x1680 ||
    (0x2000 ≤ n && n ≤ 0x200A) || n == 0x2028 || n == 0x2029 || n == 0x202F ||
    n == 0x205F || n == 0x3000

/-- Every character that core counts as whitespace is blank. -/
theorem isBlank_of_isWhitespace {c : Char} (h : c.isWhitespace = true) : isBlank c = true := by
  simp only [Char.isWhitespace, Bool.or_eq_true, decide_eq_true_eq] at h
  rcases h with ((h | h) | h) | h <;> subst h <;> decide

-- ============================================================ trimming

/-- Drops the blanks at the end of a character list. -/
def dropTrailingBlanks (cs : List Char) : List Char :=
  ((cs.reverse).dropWhile isBlank).reverse

/-- Drops the blanks at both ends of a character list. -/
def trimChars (cs : List Char) : List Char :=
  dropTrailingBlanks (cs.dropWhile isBlank)

/-- The text without its leading and trailing blanks. -/
def trim (s : String) : String :=
  String.ofList (trimChars s.toList)

end QueryDiagram.Text
