import QueryDiagram.Sql.Keyword
import QueryDiagram.Text.Match

/-!
Reading SQL text into tokens.

At each position the lexical rules are tried in a fixed order and the first that reads a token
there decides its class and length; a character that no rule reads becomes an `error` token of
its own. Letters in the rules' words match either case. A rule may look at the character just
before the position, so the scan carries it along. Every token is read from the position where
the previous one ended, so the tokens' texts concatenate to the input (`chars_tokenize`).

Some rules end where the text no longer fits, not where a longer reading would: a number is
cut back by one digit when a letter follows it directly (`12a` reads as `1` and `2a`), and a
quoted text ends at the first closing quote reachable through its escapes.
-/

namespace QueryDiagram.Sql

open Text

-- ============================================================ character tests

/-- A character that may start a name: an ASCII letter, a Latin-1 letter from `À` to `Ü` or
from `à` to `ü` other than `÷`, the sign `×` between them, and the characters that fold onto
these: `ı`, `İ`, `ſ`, the Kelvin sign and the Ångström sign. -/
def isNameStart (c : Char) : Bool :=
  let n := c.toNat
  c.isAlpha || (0xC0 ≤ n && n ≤ 0xDC) || (0xE0 ≤ n && n ≤ 0xF6) || (0xF8 ≤ n && n ≤ 0xFC) ||
    n == 0x130 || n == 0x131 || n == 0x17F || n == 0x212A || n == 0x212B

/-- A hexadecimal digit: a decimal digit or a letter from `a` to `f` in either case. -/
def isHexDigit (c : Char) : Bool :=
  isDecimalDigit c || ('a' ≤ c.toLower && c.toLower ≤ 'f')

/-- What may follow a number: anything but `_` and a character that may start a name. -/
def endsNumber : List Char → Bool
  | [] => true
  | c :: _ => !(c == '_' || isNameStart c)

/-- The length of a leading minus sign: one or none. -/
def signLength : List Char → Nat
  | '-' :: _ => 1
  | _ => 0

/-- The simple lower case of one character, by which repeated delimiters are compared. -/
def foldLower (c : Char) : Char :=
  if c == 'İ' then 'i'
  else match lowerChar c with
    | [d] => d
    | _ => c

-- ============================================================ rule pieces

/-- The words `ws` in order, each pair separated by at least one blank, the last one ending at
a word boundary: the length of the text they cover. -/
def phraseLength : List String → List Char → Option Nat
  | [], _ => none
  | [w], cs =>
    if startsWithFold w.toList cs && endsWord (cs.drop w.length) then some w.length else none
  | w :: v :: rest, cs =>
    if startsWithFold w.toList cs then
      let after := cs.drop w.length
      let b := spanLength isBlank after
      if b = 0 then none else (phraseLength (v :: rest) (after.drop b)).map (w.length + b + ·)
    else none

/-- The first of several phrases that reads at the start of `cs`. -/
def firstPhrase (phrases : List (List String)) (cs : List Char) : Option Nat :=
  phrases.findSome? (phraseLength · cs)

/-- At least one blank and then the word `w`: the length of both. -/
def blanksThen (w : String) (cs : List Char) : Option Nat :=
  let b := spanLength isBlank cs
  if b > 0 && startsWithFold w.toList (cs.drop b) then some (b + w.length) else none

/-- The rest of a line comment: up to and including the first line break, or to the end. -/
def lineRestLength : List Char → Nat
  | [] => 0
  | '\r' :: '\n' :: _ => 2
  | '\r' :: _ => 1
  | '\n' :: _ => 1
  | _ :: cs => lineRestLength cs + 1

/-- The rest of a block comment: up to and including the first `*/`. -/
def blockRestLength : List Char → Option Nat
  | [] => none
  | '*' :: '/' :: _ => some 2
  | _ :: cs => (blockRestLength cs).map (· + 1)

/-- The rest of a quoted text after its opening quote `q`: items are a doubled quote, a
quote after a backslash when `backslash` holds, or any other character, as many as lead to a
closing quote, the longer readings tried first. -/
def closingLength (q : Char) (backslash : Bool) : List Char → Option Nat
  | [] => none
  | [c] => if c = q then some 1 else none
  | c :: d :: rest =>
    if c = q then
      if d = q then
        match closingLength q backslash rest with
        | some n => some (n + 2)
        | none => some 1
      else some 1
    else if backslash && c == '\\' && d == q then
      match closingLength q backslash rest with
      | some n => some (n + 2)
      | none => (closingLength q backslash (d :: rest)).map (· + 1)
    else (closingLength q backslash (d :: rest)).map (· + 1)
termination_by l => l.length
decreasing_by all_goals simp only [List.length_cons]; omega

/-- A character that may start a name, then word characters: the length of both. -/
def nameWordLength : List Char → Option Nat
  | c :: rest => if isNameStart c then some (1 + spanLength isWordChar rest) else none
  | [] => none

-- ============================================================ the rules

/-- One lexical rule: from the character before the position, if any, and the input from
the position on, the class and length of the token it reads there. -/
abbrev Rule := Option Char → List Char → Option (TokenKind × Nat)

/-- Comments to the end of the line, opened by `--` or `# `; a `+` right after the opener
marks an optimiser hint. -/
def lineCommentRule : Rule := fun _ cs =>
  let opener : Option Nat :=
    match cs with
    | '-' :: '-' :: _ => some 2
    | '#' :: ' ' :: _ => some 2
    | _ => none
  opener.map fun n =>
    match cs.drop n with
    | '+' :: body => (.lineHint, n + 1 + lineRestLength body)
    | body => (.lineComment, n + lineRestLength body)

/-- Comments between `/*` and the first `*/`; a `+` right after the opener marks a hint. -/
def blockCommentRule : Rule := fun _ cs =>
  match cs with
  | '/' :: '*' :: '+' :: body => (blockRestLength body).map (.blockHint, 3 + ·)
  | '/' :: '*' :: body => (blockRestLength body).map (.blockComment, 2 + ·)
  | _ => none

/-- A line break: carriage return and line feed together, or either alone. -/
def newlineRule : Rule := fun _ cs =>
  match cs with
  | '\r' :: '\n' :: _ => some (.newline, 2)
  | '\r' :: _ => some (.newline, 1)
  | '\n' :: _ => some (.newline, 1)
  | _ => none

/-- One blank character. -/
def blankRule : Rule := fun _ cs =>
  match cs with
  | c :: _ => if isBlank c then some (.whitespace, 1) else none
  | [] => none

/-- The assignment `:=`, the cast `::` and the wildcard `*`. -/
def symbolRule : Rule := fun _ cs =>
  match cs with
  | ':' :: '=' :: _ => some (.assignment, 2)
  | ':' :: ':' :: _ => some (.punctuation, 2)
  | '*' :: _ => some (.wildcard, 1)
  | _ => none

/-- Names in backticks or acute accents, where a doubled delimiter stands for itself. -/
def delimitedNameRule : Rule := fun _ cs =>
  match cs with
  | '`' :: rest => (closingLength '`' false rest).map (.name, 1 + ·)
  | '´' :: rest => (closingLength '´' false rest).map (.name, 1 + ·)
  | _ => none

/-- Dollar-quoted literals `$tag$…$tag$` or `$$…$$`, closed by the first repetition of the
opening delimiter in either case; the opening `$` must not follow a word character, `"` or `$`. -/
def dollarQuotedRule : Rule := fun prev cs =>
  if prev.any (fun p => isWordChar p || p == '"' || p == '$') then none
  else
    match cs with
    | '$' :: rest =>
      let tagLength : Option Nat :=
        match rest with
        | '$' :: _ => some 0
        | t :: more =>
          if t == '_' || isNameStart t then
            let n := 1 + spanLength isWordChar more
            if (rest.drop n).head? == some '$' then some n else none
          else none
        | [] => none
      tagLength.bind fun n =>
        let delimiter := cs.take (n + 2)
        (findBy (fun a b => foldLower a == foldLower b) delimiter (cs.drop (n + 2))).map
          fun k => (.dollarQuoted, 2 * (n + 2) + k)
    | [] => none
    | _ :: _ => none

/-- Placeholders `?` and `%s`, also `%(name)s`. -/
def placeholderRule : Rule := fun _ cs =>
  match cs with
  | '?' :: _ => some (.placeholder, 1)
  | '%' :: '(' :: rest =>
    let w := spanLength isWordChar rest
    if w > 0 then
      match rest.drop w with
      | ')' :: s :: _ => if foldEq 's' s then some (.placeholder, w + 4) else none
      | _ => none
    else none
  | '%' :: s :: _ => if foldEq 's' s then some (.placeholder, 2) else none
  | _ => none

/-- Placeholders `$n`, `:name`, `?name`, not right after a word character. -/
def markerRule : Rule := fun prev cs =>
  if prev.any isWordChar then none
  else
    match cs with
    | c :: rest =>
      if c == '$' || c == ':' || c == '?' then
        let w := spanLength isWordChar rest
        if w > 0 then some (.placeholder, 1 + w) else none
      else none
    | [] => none

/-- Client commands: a backslash and a word. -/
def commandRule : Rule := fun _ cs =>
  match cs with
  | '\\' :: rest =>
    let w := spanLength isWordChar rest
    if w > 0 then some (.command, 1 + w) else none
  | _ => none

/-- The keywords that may stand right before a bracket without naming a function. -/
def bracketKeywordRule : Rule := fun _ cs =>
  (firstPhrase [["CASE"], ["IN"], ["VALUES"], ["USING"], ["FROM"], ["AS"]] cs).map (.keyword, ·)

/-- Variables and temporary tables: `@`, `##` or `#`, a name letter, and at least one more
word character. -/
def sigilNameRule : Rule := fun _ cs =>
  let after (n : Nat) : Option Nat :=
    match cs.drop n with
    | c :: rest =>
      if isNameStart c then
        let w := spanLength isWordChar rest
        if w > 0 then some (n + 1 + w) else none
      else none
    | [] => none
  let found : Option Nat :=
    match cs with
    | '@' :: _ => after 1
    | '#' :: '#' :: _ => after 2 <|> after 1
    | '#' :: _ => after 1
    | _ => none
  found.map (.name, ·)

/-- A name followed, after any blanks, by a full stop: the qualifier of a dotted name. -/
def qualifierRule : Rule := fun _ cs =>
  (nameWordLength cs).bind fun n =>
    let after := cs.drop n
    match after.drop (spanLength isBlank after) with
    | '.' :: _ => some (.name, n)
    | _ => none

/-- A name right after a full stop. -/
def memberRule : Rule := fun prev cs =>
  if prev == some '.' then (nameWordLength cs).map (.name, ·) else none

/-- A name right before an opening bracket: a function being called. -/
def callRule : Rule := fun _ cs =>
  (nameWordLength cs).bind fun n =>
    match cs.drop n with
    | '(' :: _ => some (.name, n)
    | _ => none

/-- Hexadecimal numbers `0x…`, with an optional minus sign. -/
def hexRule : Rule := fun _ cs =>
  let s := signLength cs
  match cs.drop s with
  | '0' :: x :: rest =>
    if foldEq 'x' x then
      let d := spanLength isHexDigit rest
      if d > 0 then some (.hexadecimal, s + 2 + d) else none
    else none
  | _ => none

/-- Numbers with an exponent: digits, an optional fraction, `E`, an optional minus, digits. -/
def exponentRule : Rule := fun _ cs =>
  let s := signLength cs
  let body := cs.drop s
  let d1 := spanLength isDecimalDigit body
  if d1 = 0 then none
  else
    let afterInt := body.drop d1
    let frac : Nat :=
      match afterInt with
      | '.' :: rest =>
        let d2 := spanLength isDecimalDigit rest
        if d2 > 0 then d2 + 1 else 0
      | _ => 0
    match afterInt.drop frac with
    | e :: rest =>
      if foldEq 'E' e then
        let m := signLength rest
        let d3 := spanLength isDecimalDigit (rest.drop m)
        if d3 > 0 then some (.float, s + d1 + frac + 1 + m + d3) else none
      else none
    | [] => none

/-- Numbers with a fraction, `1.5`, `1.` or `.5`, not followed by a name letter or `_`; when
one follows, the last digit of the fraction is left out if that makes the number fit. -/
def fractionRule : Rule := fun _ cs =>
  let s := signLength cs
  let body := cs.drop s
  let d1 := spanLength isDecimalDigit body
  let withInteger : Option Nat :=
    if d1 = 0 then none
    else
      match body.drop d1 with
      | '.' :: rest =>
        let d2 := spanLength isDecimalDigit rest
        if endsNumber (rest.drop d2) then some (d1 + 1 + d2)
        else if d2 > 0 then some (d1 + d2) else none
      | _ => none
  let fractionOnly : Option Nat :=
    match body with
    | '.' :: rest =>
      let e := spanLength isDecimalDigit rest
      if e = 0 then none
      else if endsNumber (rest.drop e) then some (1 + e)
      else if e ≥ 2 then some e else none
    | _ => none
  (withInteger <|> fractionOnly).map (.float, s + ·)

/-- Whole numbers not followed by a name letter or `_`; when one follows, the last digit is
left out if that makes the number fit. -/
def integerRule : Rule := fun _ cs =>
  let s := signLength cs
  let body := cs.drop s
  let d := spanLength isDecimalDigit body
  if d = 0 then none
  else if endsNumber (body.drop d) then some (.integer, s + d)
  else if d ≥ 2 then some (.integer, s + d - 1) else none

/-- Texts in single or double quotes; a doubled quote or a quote after a backslash stands
for itself. -/
def quotedRule : Rule := fun _ cs =>
  match cs with
  | '\'' :: rest => (closingLength '\'' true rest).map (.singleQuoted, 1 + ·)
  | '"' :: rest => (closingLength '"' true rest).map (.doubleQuoted, 1 + ·)
  | _ => none

/-- Names in square brackets, unless the bracket follows a word character, `]` or `)`, where
it indexes an array. -/
def bracketNameRule : Rule := fun prev cs =>
  if prev.any (fun p => isWordChar p || p == ']' || p == ')') then none
  else
    match cs with
    | '[' :: rest =>
      let n := spanLength (fun c => c != '[' && c != ']') rest
      if n > 0 && (rest.drop n).head? == some ']' then some (.name, n + 2) else none
    | _ => none

/-- The join phrases, read as one keyword with the blanks inside them. -/
def joinRule : Rule := fun _ cs =>
  let sides := ["LEFT", "RIGHT", "FULL"]
  let kinds := ["INNER", "OUTER", "STRAIGHT"]
  let phrases : List (List String) :=
    (sides.flatMap fun x => (kinds.map fun y => [x, y, "JOIN"]) ++ [[x, "JOIN"]]) ++
      (kinds.map fun y => [y, "JOIN"]) ++ [["JOIN"], ["CROSS", "JOIN"], ["NATURAL", "JOIN"]]
  (firstPhrase phrases cs).map (.keyword, ·)

/-- Keyword phrases of several words, each read as one token. -/
def phraseRule : Rule := fun _ cs =>
  let groups : List (TokenKind × List (List String)) := [
    (.keyword, [["END", "IF"], ["END", "LOOP"], ["END", "WHILE"], ["END"]]),
    (.keyword, [["NOT", "NULL"]]),
    (.keyword, [["NULLS", "FIRST"], ["NULLS", "LAST"]]),
    (.keyword, [["UNION", "ALL"]]),
    (.definition, [["CREATE", "OR", "REPLACE"], ["CREATE"]]),
    (.builtin, [["DOUBLE", "PRECISION"]]),
    (.keyword, [["GROUP", "BY"]]),
    (.keyword, [["ORDER", "BY"]]),
    (.keyword, [["PRIMARY", "KEY"]]),
    (.keyword, [["HANDLER", "FOR"]])]
  groups.findSome? fun (k, phrases) => (firstPhrase phrases cs).map (k, ·)

/-- `GO` with a count: one blank and digits, ending at a word boundary. -/
def batchRule : Rule := fun _ cs =>
  if startsWithFold ['G', 'O'] cs then
    match cs.drop 2 with
    | b :: rest =>
      if isBlank b then
        let d := spanLength isDecimalDigit rest
        if d > 0 && endsWord (rest.drop d) then some (.keyword, 3 + d) else none
      else none
    | [] => none
  else none

/-- Table generators introduced by `LATERAL VIEW`. -/
def lateralRule : Rule := fun _ cs =>
  let generators := ["EXPLODE", "INLINE", "PARSE_URL_TUPLE", "POSEXPLODE", "STACK"]
  (firstPhrase (generators.map fun g => ["LATERAL", "VIEW", g]) cs).map (.keyword, ·)

/-- Time-zone conversions: `AT` (or `WITH'`), `TIME`, `ZONE` and a quoted zone name. -/
def timeZoneRule : Rule := fun _ cs =>
  let lead : Option Nat :=
    if startsWithFold ['A', 'T'] cs then some 2
    else if startsWithFold ['W', 'I', 'T', 'H', '\''] cs then some 5
    else none
  lead.bind fun n =>
    (blanksThen "TIME" (cs.drop n)).bind fun t =>
      (blanksThen "ZONE" (cs.drop (n + t))).bind fun z =>
        let rest := cs.drop (n + t + z)
        let b := spanLength isBlank rest
        if b = 0 then none
        else
          match rest.drop b with
          | '\'' :: zone =>
            let k := spanLength (· != '\'') zone
            if k > 0 && (zone.drop k).head? == some '\'' then
              some (.timeZoneCast, n + t + z + b + k + 2)
            else none
          | _ => none

/-- Pattern comparisons: `LIKE`, `ILIKE`, `RLIKE` and `REGEXP`, optionally after `NOT`. -/
def patternRule : Rule := fun _ cs =>
  let likes := [["NOT", "LIKE"], ["NOT", "ILIKE"], ["NOT", "RLIKE"], ["LIKE"], ["ILIKE"], ["RLIKE"]]
  ((firstPhrase likes cs) <|> (firstPhrase [["NOT", "REGEXP"], ["REGEXP"]] cs)).map
    (.comparison, ·)

/-- Words: a word character, then word characters, `$` and `#`; the word tables give the
class. -/
def wordRule : Rule := fun _ cs =>
  match cs with
  | c :: rest =>
    if isWordChar c then
      let n := 1 + spanLength (fun d => isWordChar d || d == '$' || d == '#') rest
      some (classifyWord (String.ofList (cs.take n)), n)
    else none
  | [] => none

/-- Punctuation: `;`, `:`, brackets, comma and full stop. -/
def punctuationRule : Rule := fun _ cs =>
  match cs with
  | c :: _ => if ";:()[],.".toList.contains c then some (.punctuation, 1) else none
  | [] => none

/-- Document operators `->`, `->>`, `#>`, `#>>`, `@>`, `<@`, `?|`, `#-`, and the minus. -/
def documentOperatorRule : Rule := fun _ cs =>
  let found : Option Nat :=
    match cs with
    | '-' :: '>' :: '>' :: _ => some 3
    | '-' :: '>' :: _ => some 2
    | '#' :: '>' :: '>' :: _ => some 3
    | '#' :: '>' :: _ => some 2
    | '@' :: '>' :: _ => some 2
    | '<' :: '@' :: _ => some 2
    | '?' :: '|' :: _ => some 2
    | '?' :: _ => some 1
    | '-' :: _ => some 1
    | '#' :: '-' :: _ => some 2
    | _ => none
  found.map (.operator, ·)

/-- Runs of comparison characters `<>=~!`. -/
def comparisonRule : Rule := fun _ cs =>
  let n := spanLength (fun c => "<>=~!".toList.contains c) cs
  if n > 0 then some (.comparison, n) else none

/-- Runs of operator characters `+/@#%^&|-`. -/
def operatorRule : Rule := fun _ cs =>
  let n := spanLength (fun c => "+/@#%^&|-".toList.contains c) cs
  if n > 0 then some (.operator, n) else none

/-- The rules in the order they are tried. -/
def rules : List Rule :=
  [lineCommentRule, blockCommentRule, newlineRule, blankRule, symbolRule, delimitedNameRule,
    dollarQuotedRule, placeholderRule, markerRule, commandRule, bracketKeywordRule,
    sigilNameRule, qualifierRule, memberRule, callRule, hexRule, exponentRule, fractionRule,
    integerRule, quotedRule, bracketNameRule, joinRule, phraseRule, batchRule, lateralRule,
    timeZoneRule, patternRule, wordRule, punctuationRule, documentOperatorRule,
    comparisonRule, operatorRule]

-- ============================================================ the scan

/-- The class and length of the token at the start of `cs`: the first rule that reads one,
else a one-character error token. -/
def readToken (prev : Option Char) (cs : List Char) : TokenKind × Nat :=
  (rules.findSome? (· prev cs)).getD (.error, 1)

/-- The last character of `c :: cs`. -/
def lastChar (c : Char) : List Char → Char
  | [] => c
  | d :: ds => lastChar d ds

/-- Splits the input into tokens; `prev` is the character before it, if any. A token is its
first character and the `n - 1` characters after it, where `n` is the length read. -/
def tokenizeFrom (prev : Option Char) : List Char → List Token
  | [] => []
  | c :: cs =>
    let (kind, n) := readToken prev (c :: cs)
    let more := cs.take (n - 1)
    ⟨kind, String.ofList (c :: more)⟩ :: tokenizeFrom (some (lastChar c more)) (cs.drop (n - 1))
termination_by l => l.length
decreasing_by simp only [List.length_drop, List.length_cons]; omega

/-- The tokens of a text. -/
def tokenize (s : String) : List Token := tokenizeFrom none s.toList

-- ============================================================ nothing is lost

/-- The tokens' characters, one token after another, are the input. -/
theorem chars_tokenizeFrom (prev : Option Char) (cs : List Char) :
    (tokenizeFrom prev cs).flatMap (·.text.toList) = cs := by
  induction prev, cs using tokenizeFrom.induct with
  | case1 => simp [tokenizeFrom]
  | case2 prev c cs kind n h _ ih =>
    rw [tokenizeFrom]
    simp only [h, List.flatMap_cons, String.toList_ofList]
    rw [ih]
    simp

/-- The tokens' characters, one token after another, are the text. -/
theorem chars_tokenize (s : String) : (tokenize s).flatMap (·.text.toList) = s.toList :=
  chars_tokenizeFrom none s.toList

end QueryDiagram.Sql
