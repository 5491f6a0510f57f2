/-!
Indented JSON text in ASCII.

A JSON value is written with two spaces of indentation per level: an empty list or object
is `[]` or `{}`; a non-empty one puts each item on a line of its own one level deeper,
separates items by commas at the ends of lines, and closes on a line at its own level. An
object's key is followed by `: `. Strings are quoted in ASCII: a quote, a backslash and the
five control characters with short escapes take those, and every other character outside
space to `~` is written `\uXXXX` in small hexadecimal, a character above `U+FFFF` as its two
UTF-16 surrogates.
-/

namespace QueryDiagram.Text

-- ============================================================ values

/-- A JSON value made of null, strings, lists and objects; an object keeps its keys in
order. -/
inductive JsonValue where
  | null
  | text (s : String)
  | list (xs : List JsonValue)
  | object (kvs : List (String × JsonValue))
  deriving Repr, Inhabited

-- ============================================================ strings

/-- The small hexadecimal digit of a value below sixteen. -/
def hexDigit (n : Nat) : Char :=
  if n < 10 then Char.ofNat (0x30 + n) else Char.ofNat (0x61 + n - 10)

/-- A code unit below `0x10000` as `\u` and four small hexadecimal digits. -/
def unitEscape (n : Nat) : List Char :=
  ['\\', 'u', hexDigit (n / 0x1000 % 16), hexDigit (n / 0x100 % 16), hexDigit (n / 0x10 % 16),
    hexDigit (n % 16)]

/-- One character of a quoted string in ASCII. -/
def escapeAscii (c : Char) : List Char :=
  match c with
  | '"' => ['\\', '"']
  | '\\' => ['\\', '\\']
  | '\n' => ['\\', 'n']
  | '\r' => ['\\', 'r']
  | '\t' => ['\\', 't']
  | '\x08' => ['\\', 'b']
  | '\x0c' => ['\\', 'f']
  | c =>
    let n := c.toNat
    if 0x20 ≤ n && n ≤ 0x7E then [c]
    else if n < 0x10000 then unitEscape n
    else unitEscape (0xD800 + (n - 0x10000) / 0x400) ++ unitEscape (0xDC00 + (n - 0x10000) % 0x400)

/-- A string quoted in ASCII. -/
def quoteAscii (s : String) : String :=
  "\"" ++ String.ofList (s.toList.flatMap escapeAscii) ++ "\""

-- ============================================================ indentation

/-- A line break followed by the indentation of a level. -/
def lineAt (level : Nat) : String := "\n" ++ String.ofList (List.replicate (2 * level) ' ')

/-- Items on lines of their own one level deeper than `level`, between two brackets. -/
def block (level : Nat) (opening closing : String) (items : List String) : String :=
  if items.isEmpty then opening ++ closing
  else
    opening ++ lineAt (level + 1) ++ ("," ++ lineAt (level + 1)).intercalate items ++
      lineAt level ++ closing

mutual

/-- A value written at an indentation level. -/
def JsonValue.indented (level : Nat) : JsonValue → String
  | .null => "null"
  | .text s => quoteAscii s
  | .list xs => block level "[" "]" (indentedItems (level + 1) xs)
  | .object kvs => block level "\x7b" "\x7d" (indentedFields (level + 1) kvs)

/-- The items of a list, each written at an indentation level. -/
def indentedItems (level : Nat) : List JsonValue → List String
  | [] => []
  | x :: xs => x.indented level :: indentedItems level xs

/-- The fields of an object, each written at an indentation level. -/
def indentedFields (level : Nat) : List (String × JsonValue) → List String
  | [] => []
  | (k, v) :: kvs => (quoteAscii k ++ ": " ++ v.indented level) :: indentedFields level kvs

end

/-- A value as indented JSON text. -/
def JsonValue.render (v : JsonValue) : String := v.indented 0

end QueryDiagram.Text
