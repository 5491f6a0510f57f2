import QueryDiagram.Text.Case

/-!
DOT identifiers.

A text stands in DOT as it is when it is a plain identifier (an ASCII letter or `_`, then
ASCII letters, digits and `_`), a numeral (`-?(.d+|d+(.d*)?)` with ASCII digits) or an
HTML-like label (`<` … `>`); a plain identifier or numeral may carry one final line feed. A
plain identifier that reads one of DOT's keywords in any case is quoted all the same. Any
other text is put in double quotes, with a backslash added before each quote that does not
already follow an odd run of backslashes. Quoting warns when the text it puts in quotes ends
with an odd run of backslashes, at its end or before one final line feed: the last backslash
would escape the closing quote.

An edge end `node:port:compass` quotes its node and port apart and keeps the compass point
as written.
-/

namespace QueryDiagram.Dot

-- ============================================================ plain identifiers

/-- DOT's keywords, in lower case. -/
def keywords : List String := ["node", "edge", "graph", "digraph", "subgraph", "strict"]

/-- An ASCII digit. -/
def isDigitChar (c : Char) : Bool := '0' ≤ c && c ≤ '9'

/-- The text is empty or is one line feed: what may follow a plain identifier. -/
def atEnd : List Char → Bool
  | [] => true
  | ['\n'] => true
  | _ => false

/-- An identifier: an ASCII letter or `_`, then ASCII letters, digits or `_`. -/
def isIdentifier : List Char → Bool
  | c :: cs =>
    (c.isAlpha || c == '_') &&
      atEnd (cs.dropWhile fun d => d.isAlphanum || d == '_')
  | [] => false

/-- The digits and what follows them in a numeral. -/
def isUnsignedNumeral : List Char → Bool
  | '.' :: cs =>
    let d := cs.takeWhile isDigitChar
    !d.isEmpty && atEnd (cs.drop d.length)
  | cs =>
    let d := cs.takeWhile isDigitChar
    !d.isEmpty &&
      (match cs.drop d.length with
       | '.' :: rest => atEnd (rest.dropWhile isDigitChar)
       | rest => atEnd rest)

/-- A numeral, with an optional minus sign. -/
def isNumeral : List Char → Bool
  | '-' :: cs => isUnsignedNumeral cs
  | cs => isUnsignedNumeral cs

/-- An HTML-like label: `<`, anything, and `>` at the end or before one final line feed. -/
def isHtml (cs : List Char) : Bool :=
  match cs with
  | '<' :: rest =>
    match rest.reverse with
    | '>' :: _ => true
    | '\n' :: '>' :: _ => true
    | _ => false
  | _ => false

-- ============================================================ quoting

/-- Adds a backslash before each quote that follows an even run of backslashes; `run`
counts the backslashes just before the input. -/
def escapeQuotes (run : Nat) : List Char → List Char
  | [] => []
  | '"' :: cs => (if run % 2 == 0 then ['\\', '"'] else ['"']) ++ escapeQuotes 0 cs
  | '\\' :: cs => '\\' :: escapeQuotes (run + 1) cs
  | c :: cs => c :: escapeQuotes 0 cs

/-- Whether a text may stand unquoted. -/
def standsBare (s : String) : Bool :=
  isHtml s.toList ||
    ((isIdentifier s.toList || isNumeral s.toList) && !keywords.contains (Text.lower s))

/-- A text as a DOT identifier. -/
def quote (s : String) : String :=
  if standsBare s then s else "\"" ++ String.ofList (escapeQuotes 0 s.toList) ++ "\""

-- ============================================================ warnings

/-- The number of backslashes that end a text. -/
def trailingBackslashes (cs : List Char) : Nat := (cs.reverse.takeWhile (· == '\\')).length

/-- The text ends with an odd run of backslashes, at its very end or before one final line
feed. -/
def endsWithOddBackslashes (cs : List Char) : Bool :=
  trailingBackslashes cs % 2 == 1 ||
    (cs.getLast? == some '\n' && trailingBackslashes cs.dropLast % 2 == 1)

/-- Quoting a text warns that DOT will misread it: the text is put in quotes and ends with an
odd run of backslashes. -/
def quoteWarns (s : String) : Bool := !standsBare s && endsWithOddBackslashes s.toList

-- ============================================================ edge ends

/-- Splits a text at its first colon: the part before it, and the part after it if there
was one. -/
def splitColon (s : String) : String × Option String :=
  let cs := s.toList
  let before := cs.takeWhile (· != ':')
  match cs.drop before.length with
  | _ :: after => (String.ofList before, some (String.ofList after))
  | [] => (s, none)

/-- A text as an edge end: `node`, `node:port` or `node:port:compass`. -/
def quoteEnd (s : String) : String :=
  let (node, rest) := splitColon s
  match rest with
  | none => quote node
  | some r =>
    if r.isEmpty then quote node
    else
      let (port, compass) := splitColon r
      match compass with
      | some c => if c.isEmpty then quote node ++ ":" ++ quote port
        else quote node ++ ":" ++ quote port ++ ":" ++ c
      | none => quote node ++ ":" ++ quote port

end QueryDiagram.Dot
