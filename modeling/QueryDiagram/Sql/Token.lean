import QueryDiagram.Text.Blank
import QueryDiagram.Text.Case

/-!
SQL tokens.

A token is a class and the exact text it covers; a query's tokens concatenate to the query.
The classes keep apart what the clause readers tell apart: plain keywords from the keyword
families (statements, definitions, ordering, …), plain names from built-in type names and
placeholders, and every kind of blank, comment and literal. Main statements: a token of the
keyword family is never a name.
-/

namespace QueryDiagram.Sql

-- ============================================================ token classes

/-- The classes of SQL tokens. -/
inductive TokenKind where
  /-- A reserved word with no more specific role. -/
  | keyword
  /-- A statement word: `SELECT`, `INSERT`, `UPDATE`, `COMMIT`, … -/
  | statement
  /-- A definition word: `CREATE`, `DROP`, `ALTER`, `TRUNCATE`. -/
  | definition
  /-- An access-control word: `GRANT`, `REVOKE`. -/
  | access
  /-- The word `WITH` that opens common table expressions. -/
  | commonTable
  /-- A sort direction, with an optional placement of nulls. -/
  | ordering
  /-- A time-zone conversion `AT TIME ZONE '…'`. -/
  | timeZoneCast
  /-- An identifier. -/
  | name
  /-- A built-in type name such as `DATE` or `INTEGER`. -/
  | builtin
  /-- A parameter placeholder: `?`, `%s`, `:name`, `$1`. -/
  | placeholder
  /-- A client command introduced by a backslash. -/
  | command
  /-- A dollar-quoted literal. -/
  | dollarQuoted
  /-- A literal in single quotes. -/
  | singleQuoted
  /-- A text in double quotes. -/
  | doubleQuoted
  /-- A whole number. -/
  | integer
  /-- A number with a fraction or an exponent. -/
  | float
  /-- A number written in hexadecimal. -/
  | hexadecimal
  /-- A separator: `;`, `:`, `::`, brackets, comma, full stop. -/
  | punctuation
  /-- The `*` of a select list. -/
  | wildcard
  /-- The assignment `:=`. -/
  | assignment
  /-- An arithmetic, bitwise or document operator. -/
  | operator
  /-- A comparison operator, also `LIKE` and `REGEXP`. -/
  | comparison
  /-- One blank character. -/
  | whitespace
  /-- One line break. -/
  | newline
  /-- A comment to the end of the line. -/
  | lineComment
  /-- A line comment holding an optimiser hint. -/
  | lineHint
  /-- A comment between `/*` and `*/`. -/
  | blockComment
  /-- A block comment holding an optimiser hint. -/
  | blockHint
  /-- A character that starts no token. -/
  | error
  deriving DecidableEq, Repr, Inhabited

/-- The keyword family: plain keywords and the keywords with a specific role. -/
def TokenKind.isKeywordFamily : TokenKind → Bool
  | .keyword | .statement | .definition | .access | .commonTable | .ordering
  | .timeZoneCast => true
  | _ => false

-- ============================================================ tokens

/-- A token: its class and the text it covers. -/
structure Token where
  kind : TokenKind
  text : String
  deriving DecidableEq, Repr, Inhabited

namespace Token

/-- The token's text in upper case. -/
def upperText (t : Token) : String := Text.upper t.text

/-- A plain keyword that reads `w` in upper case. -/
def isKeyword (t : Token) (w : String) : Bool := t.kind == .keyword && t.upperText == w

/-- A plain keyword that reads one of `ws` in upper case. -/
def isKeywordIn (t : Token) (ws : List String) : Bool :=
  t.kind == .keyword && ws.contains t.upperText

/-- A plain name. -/
def isName (t : Token) : Bool := t.kind == .name

/-- A token whose text is empty once trimmed of blanks. -/
def isBlankText (t : Token) : Bool := (Text.trimChars t.text.toList).isEmpty

/-- A token that a list of items skips over: blank text or a comma. -/
def isFiller (t : Token) : Bool := t.isBlankText || t.text == ","

/-- A keyword of the family is not a name. -/
theorem not_isName_of_isKeywordFamily {t : Token} (h : t.kind.isKeywordFamily = true) :
    t.isName = false := by
  cases t with
  | mk k s => cases k <;> simp_all [isName, TokenKind.isKeywordFamily]

end Token

end QueryDiagram.Sql
