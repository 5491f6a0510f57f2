import QueryDiagram.Sql.Token

/-!
The first statement of a script.

A script's statements end at a semicolon outside all brackets and blocks, or after a `GO`
keyword. The statement keeps the blanks and line comments right after its end, up to the
next token of another kind. Brackets open and close levels; inside a `CREATE`, the words
`DECLARE`, `BEGIN`, `IF`, `FOR`, `WHILE` and `CASE` open levels too, and `END` closes one
anywhere. Main statement: the first statement is a prefix of the tokens
(`firstStatement_prefix`).
-/

namespace QueryDiagram.Sql

-- ============================================================ nesting

/-- What the splitter remembers between tokens: the nesting level, whether a `CREATE` has
been read, and how many `BEGIN` blocks are open. -/
structure Nesting where
  level : Int := 0
  creating : Bool := false
  blocks : Nat := 0

/-- The nesting after one more token. -/
def Nesting.step (n : Nesting) (t : Token) : Nesting :=
  if t.kind == .punctuation && t.text == "(" then { n with level := n.level + 1 }
  else if t.kind == .punctuation && t.text == ")" then { n with level := n.level - 1 }
  else if !t.kind.isKeywordFamily then n
  else
    let u := t.upperText
    if t.kind == .definition && u.startsWith "CREATE" then { n with creating := true }
    else if u == "DECLARE" && n.creating && n.blocks == 0 then { n with level := n.level + 1 }
    else if u == "BEGIN" then
      { n with blocks := n.blocks + 1, level := if n.creating then n.level + 1 else n.level }
    else if u == "END" then { n with blocks := n.blocks - 1, level := n.level - 1 }
    else if ["IF", "FOR", "WHILE", "CASE"].contains u && n.creating && n.blocks > 0 then
      { n with level := n.level + 1 }
    else if ["END IF", "END FOR", "END WHILE"].contains u then { n with level := n.level - 1 }
    else n

/-- The first word of a text, split at blanks. -/
def firstWord (s : String) : String :=
  String.ofList (((s.toList.dropWhile Text.isBlank).takeWhile (!Text.isBlank ·)))

/-- A token that ends a statement once the nesting is `n` after it. -/
def endsStatement (n : Nesting) (t : Token) : Bool :=
  (n.level ≤ 0 && t.kind == .punctuation && t.text == ";") ||
    (t.kind == .keyword && firstWord t.text == "GO")

/-- A token that still belongs to a statement that has ended: a blank or a line comment. -/
def trailsStatement (t : Token) : Bool :=
  t.kind == .whitespace || t.kind == .lineComment

-- ============================================================ the first statement

/-- The tokens of the first statement, from the nesting `n` on. -/
def firstStatementFrom (n : Nesting) : List Token → List Token
  | [] => []
  | t :: rest =>
    let n' := n.step t
    if endsStatement n' t then t :: rest.takeWhile trailsStatement
    else t :: firstStatementFrom n' rest

/-- The tokens of the first statement of a script. -/
def firstStatement (ts : List Token) : List Token := firstStatementFrom {} ts

/-- The first statement is a prefix of the script's tokens. -/
theorem firstStatementFrom_prefix (n : Nesting) (ts : List Token) :
    firstStatementFrom n ts <+: ts := by
  induction ts generalizing n with
  | nil => exact List.prefix_refl _
  | cons t rest ih =>
    simp only [firstStatementFrom]
    split
    · exact List.prefix_cons_inj t |>.mpr (List.takeWhile_prefix _)
    · exact List.prefix_cons_inj t |>.mpr (ih _)

/-- The first statement is a prefix of the script's tokens. -/
theorem firstStatement_prefix (ts : List Token) : firstStatement ts <+: ts :=
  firstStatementFrom_prefix {} ts

end QueryDiagram.Sql
