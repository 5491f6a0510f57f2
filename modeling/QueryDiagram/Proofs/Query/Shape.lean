import QueryDiagram.Proofs.Joins.Search
import QueryDiagram.Proofs.Query.Readers

/-!
Queries of the readers' shape.

The clause readers are written for queries of one shape:

    SELECT L FROM t0 [J] [WHERE w] [GROUP BY g] [HAVING h] [ORDER BY o] [LIMIT n]

with at most one join `J`, written `[kind] JOIN t [[AS] a] ON c`, and a `GROUP BY` list `g`
of columns `c` or `t.c` separated by commas. A `Select` is such a query as written: each
keyword in any letter case, any run of blanks between two parts, the tables, aliases and
columns identifiers the lexer reads as names, and the free texts — the select list `L`, the
join condition `c` and the clause texts `w`, `h`, `o`, `n` — as they stand.

A free text is taken as it stands when it is a `Part`: it starts and ends with a character that
is no blank, the lexer reads it on its own before what follows it, none of its tokens is one a
clause reader reacts to (`Token.quiet`), and it holds no word `JOIN`. Under these conditions
(`Select.Valid`) the lexer reads the query piece by piece (`Select.tokenize_text`): one token
for each keyword phrase and each identifier, one per blank, a punctuation token for each comma
and full stop of the `GROUP BY` list, and the free texts' own tokens.
-/

namespace QueryDiagram.Query

open Sql Text

-- ============================================================ the parts of a query

/-- A keyword phrase as written: the words `ks`, each in any letter case, blanks between. -/
structure Phrase (ks : List String) where
  chars : List Char
  written : Written ks chars

/-- A run of blanks, possibly empty. -/
structure Blanks where
  chars : List Char
  blank : ∀ c ∈ chars, isBlank c = true

/-- How a join is written before its table: `JOIN` alone, or after a kind; the outer joins have
`OUTER` between their side and `JOIN`. -/
inductive JoinKind
  | plain | inner | left | leftOuter | right | rightOuter | full | fullOuter
  deriving DecidableEq, Repr

namespace JoinKind

/-- The words of the join keyword. -/
def words : JoinKind → List String
  | .plain => ["JOIN"]
  | .inner => ["INNER", "JOIN"]
  | .left => ["LEFT", "JOIN"]
  | .leftOuter => ["LEFT", "OUTER", "JOIN"]
  | .right => ["RIGHT", "JOIN"]
  | .rightOuter => ["RIGHT", "OUTER", "JOIN"]
  | .full => ["FULL", "JOIN"]
  | .fullOuter => ["FULL", "OUTER", "JOIN"]

/-- The kind of join a keyword names: inner for `JOIN` alone, its side otherwise. -/
def named : JoinKind → String
  | .plain | .inner => "INNER"
  | .left | .leftOuter => "LEFT"
  | .right | .rightOuter => "RIGHT"
  | .full | .fullOuter => "FULL"

/-- The kind the text search reports: the join kind written right before `JOIN`, and `INNER`
where none is, as after `OUTER`. -/
def reported : JoinKind → String
  | .inner => "INNER"
  | .left => "LEFT"
  | .right => "RIGHT"
  | .full => "FULL"
  | .plain | .leftOuter | .rightOuter | .fullOuter => "INNER"

end JoinKind

/-- An alias written after a joined table: blanks, `AS` and blanks if written, and a name that
is not `ON`. -/
structure Alias where
  gap : Gap
  as : Option (Phrase ["AS"] × Gap)
  name : List Char
  ident : Ident name
  notOn : FoldsTo "ON" name = false

/-- A join: blanks, the join keyword, blanks, the table, an optional alias, blanks, `ON`,
blanks and the condition. -/
structure JoinClause where
  gap : Gap
  kind : JoinKind
  keyword : Phrase kind.words
  gap1 : Gap
  table : List Char
  ident : Ident table
  tableAlias : Option Alias
  gap2 : Gap
  on : Phrase ["ON"]
  gap3 : Gap
  condition : List Char

/-- A clause after the joins: blanks, its keyword phrase, blanks and its text. -/
structure Clause (ks : List String) where
  gap : Gap
  keyword : Phrase ks
  gap' : Gap
  body : List Char

/-- A column of a `GROUP BY` list: a column, or a table, a full stop and a column. -/
inductive ColumnRef
  | bare (column : List Char) (ident : Ident column)
  | qualified (table column : List Char) (identTable : Ident table) (identColumn : Ident column)

/-- A comma between two columns of a list, with blanks or none on each side. -/
structure Separator where
  before : Blanks
  after : Blanks

/-- A `GROUP BY` clause: blanks, the keyword phrase, blanks, and the columns. -/
structure GroupClause where
  gap : Gap
  keyword : Phrase ["GROUP", "BY"]
  gap' : Gap
  first : ColumnRef
  more : List (Separator × ColumnRef)

/-- A query of the readers' shape. -/
structure Select where
  select : Phrase ["SELECT"]
  gap1 : Gap
  items : List Char
  gap2 : Gap
  fromWord : Phrase ["FROM"]
  gap3 : Gap
  source : List Char
  ident : Ident source
  join : Option JoinClause
  filter : Option (Clause ["WHERE"])
  group : Option GroupClause
  having : Option (Clause ["HAVING"])
  order : Option (Clause ["ORDER", "BY"])
  limit : Option (Clause ["LIMIT"])

-- ============================================================ the text

def Alias.chars (a : Alias) : List Char :=
  a.gap.chars ++ (a.as.map fun (p, g) => p.chars ++ g.chars).getD [] ++ a.name

def JoinClause.chars (j : JoinClause) : List Char :=
  j.gap.chars ++ j.keyword.chars ++ j.gap1.chars ++ j.table ++
    (j.tableAlias.map Alias.chars).getD [] ++ j.gap2.chars ++ j.on.chars ++ j.gap3.chars ++
    j.condition

def Clause.chars {ks : List String} (c : Clause ks) : List Char :=
  c.gap.chars ++ c.keyword.chars ++ c.gap'.chars ++ c.body

def ColumnRef.chars : ColumnRef → List Char
  | .bare c _ => c
  | .qualified t c _ _ => t ++ '.' :: c

/-- A column as the `GROUP BY` reader reports it. -/
def ColumnRef.text : ColumnRef → String
  | .bare c _ => String.ofList c
  | .qualified t c _ _ => String.ofList t ++ "." ++ String.ofList c

def Separator.chars (s : Separator) : List Char := s.before.chars ++ ',' :: s.after.chars

/-- The columns of a `GROUP BY` clause, in order. -/
def GroupClause.columns (g : GroupClause) : List ColumnRef := g.first :: g.more.map (·.2)

def GroupClause.chars (g : GroupClause) : List Char :=
  g.gap.chars ++ g.keyword.chars ++ g.gap'.chars ++ g.first.chars ++
    g.more.flatMap fun sc => sc.1.chars ++ sc.2.chars

namespace Select

/-- The text from the `LIMIT` clause on. -/
def fromLimit (q : Select) : List Char := (q.limit.map Clause.chars).getD []

/-- The text from the `ORDER BY` clause on. -/
def fromOrder (q : Select) : List Char := (q.order.map Clause.chars).getD [] ++ q.fromLimit

/-- The text from the `HAVING` clause on. -/
def fromHaving (q : Select) : List Char := (q.having.map Clause.chars).getD [] ++ q.fromOrder

/-- The text from the `GROUP BY` clause on. -/
def fromGroup (q : Select) : List Char := (q.group.map GroupClause.chars).getD [] ++ q.fromHaving

/-- The text from the `WHERE` clause on. -/
def fromFilter (q : Select) : List Char := (q.filter.map Clause.chars).getD [] ++ q.fromGroup

/-- The text from the join on. -/
def fromJoin (q : Select) : List Char := (q.join.map JoinClause.chars).getD [] ++ q.fromFilter

/-- The text after the select list. -/
def afterItems (q : Select) : List Char :=
  q.gap2.chars ++ q.fromWord.chars ++ q.gap3.chars ++ q.source ++ q.fromJoin

/-- The text of a query. -/
def chars (q : Select) : List Char := q.select.chars ++ q.gap1.chars ++ q.items ++ q.afterItems

end Select

-- ============================================================ free texts

/-- A free text of a query, followed by `rest`, as the readers take it: it is not empty, starts
with neither a blank nor a full stop and ends with no blank; the lexer reads it on its own
before `rest`; none of its tokens is one a clause reader reacts to; and it holds no word
`JOIN`. -/
structure Part (p rest : List Char) : Prop where
  ne_nil : p ≠ []
  head : ∀ c ∈ p.head?, isBlank c = false ∧ c ≠ '.'
  last : ∀ c ∈ p.getLast?, isBlank c = false
  reads : tokenizeFrom none (p ++ rest) = tokenizeFrom none p ++ tokenizeFrom p.getLast? rest
  quiet : ∀ t ∈ tokenizeFrom none p, t.quiet = true
  noJoin : ¬ HasWord "JOIN" p

/-- A join condition as the readers take it: a free text with no clause word, whose brackets
close. -/
structure JoinClause.Valid (j : JoinClause) (rest : List Char) : Prop where
  condition : Part j.condition rest
  noClause : ∀ x ∈ clauseWords, ¬ HasWord x j.condition
  balanced : (tokenizeFrom none j.condition).foldl depthStep 0 = 0

/-- The free texts of a query are taken as they stand. -/
structure Select.Valid (q : Select) : Prop where
  items : Part q.items q.afterItems
  join : ∀ j ∈ q.join, j.Valid q.fromFilter
  filter : ∀ c ∈ q.filter, Part c.body q.fromGroup
  having : ∀ c ∈ q.having, Part c.body q.fromOrder
  order : ∀ c ∈ q.order, Part c.body q.fromLimit
  limit : ∀ c ∈ q.limit, Part c.body []

-- ============================================================ the tokens

/-- The token of a keyword phrase, of class `k`. -/
def Phrase.token {ks : List String} (p : Phrase ks) (k : TokenKind) : Token :=
  ⟨k, String.ofList p.chars⟩

/-- The token of an identifier. -/
def nameToken (w : List Char) : Token := ⟨.name, String.ofList w⟩

def Alias.tokens (a : Alias) : List Token :=
  blankTokens a.gap.chars ++
    (a.as.map fun (p, g) => p.token .keyword :: blankTokens g.chars).getD [] ++ [nameToken a.name]

def JoinClause.tokens (j : JoinClause) : List Token :=
  blankTokens j.gap.chars ++ j.keyword.token .keyword :: blankTokens j.gap1.chars ++
    nameToken j.table :: (j.tableAlias.map Alias.tokens).getD [] ++ blankTokens j.gap2.chars ++
    j.on.token .keyword :: blankTokens j.gap3.chars ++ tokenizeFrom none j.condition

def Clause.tokens {ks : List String} (c : Clause ks) : List Token :=
  blankTokens c.gap.chars ++ c.keyword.token .keyword :: blankTokens c.gap'.chars ++
    tokenizeFrom none c.body

def ColumnRef.tokens : ColumnRef → List Token
  | .bare c _ => [nameToken c]
  | .qualified t c _ _ => [nameToken t, ⟨.punctuation, "."⟩, nameToken c]

def Separator.tokens (s : Separator) : List Token :=
  blankTokens s.before.chars ++ ⟨.punctuation, ","⟩ :: blankTokens s.after.chars

def GroupClause.tokens (g : GroupClause) : List Token :=
  blankTokens g.gap.chars ++ g.keyword.token .keyword :: blankTokens g.gap'.chars ++
    g.first.tokens ++ g.more.flatMap fun sc => sc.1.tokens ++ sc.2.tokens

namespace Select

def tokensFromLimit (q : Select) : List Token := (q.limit.map Clause.tokens).getD []

def tokensFromOrder (q : Select) : List Token :=
  (q.order.map Clause.tokens).getD [] ++ q.tokensFromLimit

def tokensFromHaving (q : Select) : List Token :=
  (q.having.map Clause.tokens).getD [] ++ q.tokensFromOrder

def tokensFromGroup (q : Select) : List Token :=
  (q.group.map GroupClause.tokens).getD [] ++ q.tokensFromHaving

def tokensFromFilter (q : Select) : List Token :=
  (q.filter.map Clause.tokens).getD [] ++ q.tokensFromGroup

def tokensFromJoin (q : Select) : List Token :=
  (q.join.map JoinClause.tokens).getD [] ++ q.tokensFromFilter

/-- The tokens of a query as its parts are read. -/
def tokens (q : Select) : List Token :=
  q.select.token .statement :: blankTokens q.gap1.chars ++ tokenizeFrom none q.items ++
    blankTokens q.gap2.chars ++ q.fromWord.token .keyword :: blankTokens q.gap3.chars ++
    nameToken q.source :: q.tokensFromJoin

end Select

-- ============================================================ keyword phrases read

/-- The lexer reads the keyword phrase `ks`, as written, as one token of class `k`, where no
full stop comes before it and a word may end after it, with neither an opening bracket nor,
after blanks, a full stop. -/
def ReadsAs (ks : List String) (k : TokenKind) : Prop :=
  ∀ (s rest : List Char) (prev : Option Char), Written ks s → prev ≠ some '.' →
    stopsWord rest = true → (rest.dropWhile isBlank).head? ≠ some '.' → rest.head? ≠ some '(' →
    readToken prev (s ++ rest) = (k, s.length)

theorem specialWords_upper : ∀ x ∈ specialWords, IsUpperWord x := by
  simp [specialWords, IsUpperWord]

/-- A keyword of one word that starts no phrase is read by its class in the word tables. -/
theorem readsAs_plain {k : String} (hk : IsUpperWord k) (hs : k ∉ specialWords) :
    ReadsAs [k] (classifyUpper k) := by
  intro s rest prev h hprev hr hnext hopen
  have hsp : ∀ x ∈ specialWords, FoldsTo x k.toList = false := fun x hx => by
    rw [foldsTo_upper_eq (specialWords_upper x hx) hk]
    exact decide_eq_false fun e => hs (e ▸ hx)
  cases h with
  | single hw => exact readToken_plainKeyword hw hk hsp hprev hr hnext hopen
  | cons _ _ _ hw => exact absurd rfl hw.ne_nil

theorem readsAs_select : ReadsAs ["SELECT"] .statement := by
  have h : ReadsAs ["SELECT"] (classifyUpper "SELECT") :=
    readsAs_plain (by simp [IsUpperWord]) (by simp [specialWords])
  rwa [show classifyUpper "SELECT" = .statement by decide +kernel] at h

theorem readsAs_where : ReadsAs ["WHERE"] .keyword := by
  have h : ReadsAs ["WHERE"] (classifyUpper "WHERE") :=
    readsAs_plain (by simp [IsUpperWord]) (by simp [specialWords])
  rwa [show classifyUpper "WHERE" = .keyword by decide +kernel] at h

theorem readsAs_having : ReadsAs ["HAVING"] .keyword := by
  have h : ReadsAs ["HAVING"] (classifyUpper "HAVING") :=
    readsAs_plain (by simp [IsUpperWord]) (by simp [specialWords])
  rwa [show classifyUpper "HAVING" = .keyword by decide +kernel] at h

theorem readsAs_limit : ReadsAs ["LIMIT"] .keyword := by
  have h : ReadsAs ["LIMIT"] (classifyUpper "LIMIT") :=
    readsAs_plain (by simp [IsUpperWord]) (by simp [specialWords])
  rwa [show classifyUpper "LIMIT" = .keyword by decide +kernel] at h

theorem readsAs_on : ReadsAs ["ON"] .keyword := by
  have h : ReadsAs ["ON"] (classifyUpper "ON") :=
    readsAs_plain (by simp [IsUpperWord]) (by simp [specialWords])
  rwa [show classifyUpper "ON" = .keyword by decide +kernel] at h

theorem readsAs_from : ReadsAs ["FROM"] .keyword := fun _ _ _ h hprev hr hnext hopen =>
  readToken_bracketKeyword h (by simp [IsUpperWord]) hprev hr (fun _ => ⟨hnext, hopen⟩)
    (by decide) (by decide)

theorem readsAs_as : ReadsAs ["AS"] .keyword := fun _ _ _ h hprev hr hnext hopen =>
  readToken_bracketKeyword h (by simp [IsUpperWord]) hprev hr (fun _ => ⟨hnext, hopen⟩)
    (by decide) (by decide)

theorem readsAs_groupBy : ReadsAs ["GROUP", "BY"] .keyword := fun _ _ _ h hprev hr _ _ =>
  readToken_phraseKeyword h (by simp [IsUpperWord]) hprev hr (by simp) (by decide) (by decide)
    (by decide)

theorem readsAs_orderBy : ReadsAs ["ORDER", "BY"] .keyword := fun _ _ _ h hprev hr _ _ =>
  readToken_phraseKeyword h (by simp [IsUpperWord]) hprev hr (by simp) (by decide) (by decide)
    (by decide)

theorem JoinKind.words_upper (k : JoinKind) : ∀ w ∈ k.words, IsUpperWord w := by
  cases k <;> simp [words, IsUpperWord]

/-- Every join keyword is read as one keyword token. -/
theorem JoinKind.readsAs (k : JoinKind) : ReadsAs k.words .keyword := by
  intro s rest prev h hprev hr hnext hopen
  refine readToken_joinKeyword h k.words_upper hprev hr (fun _ => ⟨hnext, hopen⟩) ?_ ?_ ?_ <;>
    cases k <;> decide

-- ============================================================ reading piece by piece

/-- A comma is read as punctuation, whatever comes before or after it. -/
theorem readToken_comma (prev : Option Char) (rest : List Char) :
    readToken prev (',' :: rest) = (.punctuation, 1) := by
  simp +decide [readToken, rules, List.findSome?, lineCommentRule, blockCommentRule, newlineRule,
    blankRule, symbolRule, delimitedNameRule, dollarQuotedRule, placeholderRule, markerRule,
    commandRule, bracketKeywordRule, sigilNameRule, qualifierRule, memberRule, callRule, hexRule,
    exponentRule, fractionRule, integerRule, quotedRule, bracketNameRule, joinRule, phraseRule,
    batchRule, lateralRule, timeZoneRule, patternRule, wordRule, punctuationRule, firstPhrase,
    phraseLength, startsWithFold, foldEq, nameWordLength, signLength, spanLength, isWordChar]

/-- A full stop before a character that is no digit is read as punctuation. -/
theorem readToken_dot (prev : Option Char) {c : Char} (rest : List Char)
    (hc : isDecimalDigit c = false) : readToken prev ('.' :: c :: rest) = (.punctuation, 1) := by
  simp +decide [readToken, rules, List.findSome?, lineCommentRule, blockCommentRule, newlineRule,
    blankRule, symbolRule, delimitedNameRule, dollarQuotedRule, placeholderRule, markerRule,
    commandRule, bracketKeywordRule, sigilNameRule, qualifierRule, memberRule, callRule, hexRule,
    exponentRule, fractionRule, integerRule, quotedRule, bracketNameRule, joinRule, phraseRule,
    batchRule, lateralRule, timeZoneRule, patternRule, wordRule, punctuationRule, firstPhrase,
    phraseLength, startsWithFold, foldEq, nameWordLength, signLength, spanLength, isWordChar, hc]

/-- A keyword phrase and the blanks after it are read as the phrase's token and one token per
blank, and the scan starts afresh after them. -/
theorem Phrase.tokenizeFrom_gap {ks : List String} (p : Phrase ks) {k : TokenKind}
    (hk : ReadsAs ks k) (hks : ∀ w ∈ ks, IsUpperWord w) (prev : Option Char)
    (hprev : prev ≠ some '.') (g : Gap) {rest : List Char}
    (hrest : ∀ c ∈ rest.head?, isBlank c = false ∧ c ≠ '.') :
    tokenizeFrom prev (p.chars ++ (g.chars ++ rest)) =
      p.token k :: (blankTokens g.chars ++ tokenizeFrom none rest) := by
  obtain ⟨b, bs, hb⟩ := List.exists_cons_of_ne_nil g.ne_nil
  have hbb : isBlank b = true := g.blank b (by simp [hb])
  have hrest' : ∀ c ∈ rest.head?, isBlank c = false := fun c hc => (hrest c hc).1
  have hread : readToken prev (p.chars ++ (g.chars ++ rest)) = (k, p.chars.length) := by
    refine hk _ _ _ p.written hprev ?_ ?_ ?_
    · rw [hb]
      exact stopsWord_of_isBlank _ hbb
    · -- after the blanks comes `rest`, which starts with no full stop
      rw [← drop_spanLength_eq_dropWhile, g.spanLength_append hrest', List.drop_left]
      exact fun h => (hrest '.' h).2 rfl
    · simp only [hb, List.cons_append, List.head?_cons, ne_eq, Option.some.injEq]
      rintro rfl
      revert hbb
      decide
  rw [tokenizeFrom_of_readToken (p.written.chars_ne_nil hks) hread, g.tokenizeFrom_append _ hrest']
  rfl

/-- A column is read as its name tokens, with a punctuation token for its full stop. -/
theorem ColumnRef.tokenizeFrom_append (c : ColumnRef) (prev : Option Char) {rest : List Char}
    (hr : stopsWord rest = true) :
    tokenizeFrom prev (c.chars ++ rest) = c.tokens ++ tokenizeFrom c.chars.getLast? rest := by
  cases c with
  | bare w hw => exact hw.tokenizeFrom prev hr
  | qualified t w ht hw =>
    obtain ⟨d, ds, hd⟩ := List.exists_cons_of_ne_nil hw.word.1
    have hdot : readToken t.getLast? (['.'] ++ (w ++ rest)) = (.punctuation, ['.'].length) := by
      rw [hd]
      exact readToken_dot _ _ (hw.notDigit d (by simp [hd]))
    have hlast : (t ++ '.' :: w).getLast? = w.getLast? := by
      rw [hd, List.getLast?_append_of_ne_nil _ (List.cons_ne_nil _ _),
        List.getLast?_cons_cons]
    simp only [ColumnRef.chars, ColumnRef.tokens, List.append_assoc, List.cons_append]
    rw [ht.tokenizeFrom prev (by rfl), show '.' :: (w ++ rest) = ['.'] ++ (w ++ rest) from rfl,
      tokenizeFrom_of_readToken (by simp) hdot, hw.tokenizeFrom _ hr, hlast]
    rfl

/-- A comma with blanks around it is read as one punctuation token among blank tokens. -/
theorem Separator.tokenizeFrom_append (s : Separator) (prev : Option Char) {rest : List Char}
    (hrest : ∀ c ∈ rest.head?, isBlank c = false) :
    tokenizeFrom prev (s.chars ++ rest) =
      s.tokens ++ tokenizeFrom (s.after.chars.getLast?.or (some ',')) rest := by
  have hn : rest.head? ≠ some '\n' := fun h => by
    have := hrest '\n' h
    revert this
    decide
  simp only [Separator.chars, Separator.tokens, List.append_assoc, List.cons_append]
  rw [tokenizeFrom_blanks_append s.before.blank (by simp) prev, ← List.singleton_append,
    tokenizeFrom_of_readToken (by simp) (readToken_comma _ _),
    tokenizeFrom_blanks_append s.after.blank hn]
  rfl

-- ============================================================ where a piece ends

/-- A free text with what follows it starts as the free text does. -/
theorem Part.head_append {p rest : List Char} (hp : Part p rest) (r : List Char) :
    ∀ d ∈ (p ++ r).head?, isBlank d = false ∧ d ≠ '.' := by
  rw [List.head?_append_of_ne_nil _ hp.ne_nil]
  exact hp.head

/-- A word with what follows it starts with neither a blank nor a full stop. -/
theorem IsWord.head_starts {w : List Char} (hw : IsWord w) (r : List Char) :
    ∀ d ∈ (w ++ r).head?, isBlank d = false ∧ d ≠ '.' := by
  obtain ⟨c, t, rfl⟩ := List.exists_cons_of_ne_nil hw.1
  intro d hd
  simp only [List.cons_append, List.head?_cons, Option.mem_def, Option.some.injEq] at hd
  subst hd
  have hc : isWordChar c = true := hw.2 c List.mem_cons_self
  refine ⟨not_isBlank_of_isWordChar hc, ?_⟩
  rintro rfl
  revert hc
  decide

/-- A keyword phrase starts with a letter. -/
theorem Phrase.head_not_blank {ks : List String} (p : Phrase ks) (hks : ∀ w ∈ ks, IsUpperWord w)
    (r : List Char) : ∀ d ∈ (p.chars ++ r).head?, isBlank d = false := by
  obtain ⟨c, t, hc, ha⟩ := p.written.exists_cons hks
  intro d hd
  simp only [hc, List.cons_append, List.head?_cons, Option.mem_def, Option.some.injEq] at hd
  subst hd
  exact isBlank_of_isAlpha ha

/-- A word ends where a blank follows it, or the text. -/
theorem stopsWord_of_head_blank {rest : List Char} (h : ∀ c ∈ rest.head?, isBlank c = true) :
    stopsWord rest = true := by
  cases rest with
  | nil => rfl
  | cons c t => exact stopsWord_of_isBlank t (h c rfl)

/-- An optional part that starts with a blank, followed by a text that does or is empty. -/
theorem head_blank_optional {α : Type} (o : Option α) (f : α → List Char)
    (hf : ∀ a r, ∀ d ∈ (f a ++ r).head?, isBlank d = true) (r : List Char)
    (hr : ∀ d ∈ r.head?, isBlank d = true) :
    ∀ d ∈ ((o.map f).getD [] ++ r).head?, isBlank d = true := by
  cases o with
  | none => exact hr
  | some a => exact hf a r

-- ============================================================ the join and the clauses read

/-- An alias is read as its blanks, the keyword `AS` and the blanks after it if written, and
its name. -/
theorem Alias.tokenizeFrom_append (a : Alias) (prev : Option Char) {rest : List Char}
    (hr : stopsWord rest = true) :
    tokenizeFrom prev (a.chars ++ rest) = a.tokens ++ tokenizeFrom a.name.getLast? rest := by
  rcases a with ⟨g, as, w, hw, hon⟩
  cases as with
  | none =>
    simp only [Alias.chars, Alias.tokens, Option.map_none, Option.getD_none, List.append_nil,
      List.append_assoc]
    rw [g.tokenizeFrom_append prev (IsWord.head_not_blank hw.word rest), hw.tokenizeFrom none hr]
    rfl
  | some pg =>
    obtain ⟨p, g'⟩ := pg
    simp only [Alias.chars, Alias.tokens, Option.map_some, Option.getD_some, List.append_assoc]
    rw [g.tokenizeFrom_append prev (p.head_not_blank (by simp [IsUpperWord]) _),
      p.tokenizeFrom_gap readsAs_as (by simp [IsUpperWord]) none (by simp) g'
        (IsWord.head_starts hw.word rest), hw.tokenizeFrom none hr]
    simp [nameToken]

theorem Alias.stopsWord_append (a : Alias) (r : List Char) : stopsWord (a.chars ++ r) = true := by
  simp only [Alias.chars, List.append_assoc]
  exact stopsWord_of_head_blank (a.gap.head_blank _)

/-- A join is read piece by piece: its keyword, table, alias and `ON` as tokens of their own,
and its condition as on its own. -/
theorem JoinClause.tokenizeFrom_append (j : JoinClause) {rest : List Char} (hj : j.Valid rest)
    (prev : Option Char) :
    tokenizeFrom prev (j.chars ++ rest) = j.tokens ++ tokenizeFrom j.condition.getLast? rest := by
  rcases j with ⟨g, kind, kw, g1, t, ht, al, g2, on, g3, c⟩
  have hc := hj.condition
  -- from `ON` on, the scan starts afresh
  have hon : ∀ p, tokenizeFrom p (g2.chars ++ (on.chars ++ (g3.chars ++ (c ++ rest)))) =
      blankTokens g2.chars ++ on.token .keyword ::
        (blankTokens g3.chars ++ (tokenizeFrom none c ++ tokenizeFrom c.getLast? rest)) := by
    intro p
    rw [g2.tokenizeFrom_append p (on.head_not_blank (by simp [IsUpperWord]) _),
      on.tokenizeFrom_gap readsAs_on (by simp [IsUpperWord]) none (by simp) g3 (hc.head_append rest),
      hc.reads]
  have hkw : ∀ r, tokenizeFrom none (kw.chars ++ (g1.chars ++ (t ++ r))) =
      kw.token .keyword :: (blankTokens g1.chars ++ tokenizeFrom none (t ++ r)) := fun r =>
    kw.tokenizeFrom_gap kind.readsAs kind.words_upper none (by simp) g1 (IsWord.head_starts ht.word r)
  cases al with
  | none =>
    simp only [JoinClause.chars, JoinClause.tokens, Option.map_none, Option.getD_none,
      List.append_nil, List.nil_append, List.append_assoc, List.cons_append]
    rw [g.tokenizeFrom_append prev (kw.head_not_blank kind.words_upper _), hkw,
      ht.tokenizeFrom none (stopsWord_of_head_blank (g2.head_blank _)), hon]
    rfl
  | some a =>
    simp only [JoinClause.chars, JoinClause.tokens, Option.map_some, Option.getD_some,
      List.append_assoc, List.cons_append]
    rw [g.tokenizeFrom_append prev (kw.head_not_blank kind.words_upper _), hkw,
      ht.tokenizeFrom none (a.stopsWord_append _),
      a.tokenizeFrom_append _ (stopsWord_of_head_blank (g2.head_blank _)), hon]
    simp [nameToken]

/-- A clause is read as its blanks, its keyword phrase, the blanks after it and its text on its
own. -/
theorem Clause.tokenizeFrom_append {ks : List String} (c : Clause ks) (hk : ReadsAs ks .keyword)
    (hks : ∀ w ∈ ks, IsUpperWord w) {rest : List Char} (hp : Part c.body rest)
    (prev : Option Char) :
    tokenizeFrom prev (c.chars ++ rest) = c.tokens ++ tokenizeFrom c.body.getLast? rest := by
  simp only [Clause.chars, Clause.tokens, List.append_assoc, List.cons_append]
  rw [c.gap.tokenizeFrom_append prev (c.keyword.head_not_blank hks _),
    c.keyword.tokenizeFrom_gap hk hks none (by simp) c.gap' (hp.head_append rest), hp.reads]

-- ============================================================ the `GROUP BY` list read

theorem ColumnRef.head_starts (c : ColumnRef) (r : List Char) :
    ∀ d ∈ (c.chars ++ r).head?, isBlank d = false ∧ d ≠ '.' := by
  cases c with
  | bare w hw => exact IsWord.head_starts hw.word r
  | qualified t w ht hw =>
    simp only [ColumnRef.chars, List.append_assoc]
    exact IsWord.head_starts ht.word _

/-- A word ends before a comma and the blanks around it. -/
theorem Separator.stopsWord_append (s : Separator) (r : List Char) :
    stopsWord (s.chars ++ r) = true := by
  cases h : s.before.chars with
  | nil =>
    simp only [Separator.chars, h, List.nil_append, List.cons_append]
    rfl
  | cons b bs =>
    simp only [Separator.chars, h, List.cons_append]
    exact stopsWord_of_isBlank _ (s.before.blank b (by simp [h]))

/-- A word ends where the columns after the first of a list start, or where the list would. -/
theorem stopsWord_columns (more : List (Separator × ColumnRef)) {rest : List Char}
    (hr : stopsWord rest = true) :
    stopsWord ((more.flatMap fun sc => sc.1.chars ++ sc.2.chars) ++ rest) = true := by
  cases more with
  | nil => exact hr
  | cons sc more =>
    simp only [List.flatMap_cons, List.append_assoc]
    exact sc.1.stopsWord_append _

/-- The columns after the first of a `GROUP BY` list are read comma by comma; the text after the
list, read the same whatever comes before it, is read so after the list too. -/
theorem tokenizeFrom_columns (more : List (Separator × ColumnRef)) (prev : Option Char)
    {rest : List Char} {ts : List Token} (hr : stopsWord rest = true)
    (hrest : ∀ p, tokenizeFrom p rest = ts) :
    tokenizeFrom prev ((more.flatMap fun sc => sc.1.chars ++ sc.2.chars) ++ rest) =
      (more.flatMap fun sc => sc.1.tokens ++ sc.2.tokens) ++ ts := by
  induction more generalizing prev with
  | nil => exact hrest prev
  | cons sc more ih =>
    have hstop := stopsWord_columns more hr
    simp only [List.flatMap_cons, List.append_assoc]
    rw [sc.1.tokenizeFrom_append prev (fun d hd => (sc.2.head_starts _ d hd).1),
      sc.2.tokenizeFrom_append _ hstop, ih]

/-- A `GROUP BY` clause is read as its keyword phrase and its columns with their commas. -/
theorem GroupClause.tokenizeFrom_append (g : GroupClause) (prev : Option Char) {rest : List Char}
    {ts : List Token} (hr : stopsWord rest = true) (hrest : ∀ p, tokenizeFrom p rest = ts) :
    tokenizeFrom prev (g.chars ++ rest) = g.tokens ++ ts := by
  have hks : ∀ w ∈ ["GROUP", "BY"], IsUpperWord w := by simp [IsUpperWord]
  simp only [GroupClause.chars, GroupClause.tokens, List.append_assoc, List.cons_append]
  rw [g.gap.tokenizeFrom_append prev (g.keyword.head_not_blank hks _),
    g.keyword.tokenizeFrom_gap readsAs_groupBy hks none (by simp) g.gap' (g.first.head_starts _),
    g.first.tokenizeFrom_append none (stopsWord_columns g.more hr),
    tokenizeFrom_columns g.more _ hr hrest]

-- ============================================================ the query read

theorem Clause.head_blank {ks : List String} (c : Clause ks) (r : List Char) :
    ∀ d ∈ (c.chars ++ r).head?, isBlank d = true := by
  simp only [Clause.chars, List.append_assoc]
  exact c.gap.head_blank _

theorem GroupClause.head_blank (g : GroupClause) (r : List Char) :
    ∀ d ∈ (g.chars ++ r).head?, isBlank d = true := by
  simp only [GroupClause.chars, List.append_assoc]
  exact g.gap.head_blank _

theorem JoinClause.head_blank (j : JoinClause) (r : List Char) :
    ∀ d ∈ (j.chars ++ r).head?, isBlank d = true := by
  simp only [JoinClause.chars, List.append_assoc]
  exact j.gap.head_blank _

namespace Select

variable {q : Select}

/-! Each part of a query from the join on starts with a blank or is empty, so the lexer reads it
the same whatever comes before it. -/

theorem fromLimit_head (q : Select) : ∀ d ∈ q.fromLimit.head?, isBlank d = true := by
  have h := head_blank_optional q.limit Clause.chars Clause.head_blank [] (by simp)
  rwa [List.append_nil] at h

theorem fromOrder_head (q : Select) : ∀ d ∈ q.fromOrder.head?, isBlank d = true :=
  head_blank_optional _ _ Clause.head_blank _ q.fromLimit_head

theorem fromHaving_head (q : Select) : ∀ d ∈ q.fromHaving.head?, isBlank d = true :=
  head_blank_optional _ _ Clause.head_blank _ q.fromOrder_head

theorem fromGroup_head (q : Select) : ∀ d ∈ q.fromGroup.head?, isBlank d = true :=
  head_blank_optional _ _ GroupClause.head_blank _ q.fromHaving_head

theorem fromFilter_head (q : Select) : ∀ d ∈ q.fromFilter.head?, isBlank d = true :=
  head_blank_optional _ _ Clause.head_blank _ q.fromGroup_head

theorem fromJoin_head (q : Select) : ∀ d ∈ q.fromJoin.head?, isBlank d = true :=
  head_blank_optional _ _ JoinClause.head_blank _ q.fromFilter_head

theorem tokenizeFrom_fromLimit (hq : q.Valid) (prev : Option Char) :
    tokenizeFrom prev q.fromLimit = q.tokensFromLimit := by
  unfold fromLimit tokensFromLimit
  cases h : q.limit with
  | none => exact tokenizeFrom.eq_1 prev
  | some c =>
    have hc := c.tokenizeFrom_append readsAs_limit (by simp [IsUpperWord]) (hq.limit c h) prev
    rwa [List.append_nil, tokenizeFrom.eq_1, List.append_nil] at hc

theorem tokenizeFrom_fromOrder (hq : q.Valid) (prev : Option Char) :
    tokenizeFrom prev q.fromOrder = q.tokensFromOrder := by
  unfold fromOrder tokensFromOrder
  cases h : q.order with
  | none => exact tokenizeFrom_fromLimit hq prev
  | some c =>
    rw [Option.map_some, Option.getD_some, Option.map_some, Option.getD_some,
      c.tokenizeFrom_append readsAs_orderBy (by simp [IsUpperWord]) (hq.order c h) prev,
      tokenizeFrom_fromLimit hq]

theorem tokenizeFrom_fromHaving (hq : q.Valid) (prev : Option Char) :
    tokenizeFrom prev q.fromHaving = q.tokensFromHaving := by
  unfold fromHaving tokensFromHaving
  cases h : q.having with
  | none => exact tokenizeFrom_fromOrder hq prev
  | some c =>
    rw [Option.map_some, Option.getD_some, Option.map_some, Option.getD_some,
      c.tokenizeFrom_append readsAs_having (by simp [IsUpperWord]) (hq.having c h) prev,
      tokenizeFrom_fromOrder hq]

theorem tokenizeFrom_fromGroup (hq : q.Valid) (prev : Option Char) :
    tokenizeFrom prev q.fromGroup = q.tokensFromGroup := by
  unfold fromGroup tokensFromGroup
  cases h : q.group with
  | none => exact tokenizeFrom_fromHaving hq prev
  | some g =>
    rw [Option.map_some, Option.getD_some, Option.map_some, Option.getD_some,
      g.tokenizeFrom_append prev (stopsWord_of_head_blank q.fromHaving_head)
        (tokenizeFrom_fromHaving hq)]

theorem tokenizeFrom_fromFilter (hq : q.Valid) (prev : Option Char) :
    tokenizeFrom prev q.fromFilter = q.tokensFromFilter := by
  unfold fromFilter tokensFromFilter
  cases h : q.filter with
  | none => exact tokenizeFrom_fromGroup hq prev
  | some c =>
    rw [Option.map_some, Option.getD_some, Option.map_some, Option.getD_some,
      c.tokenizeFrom_append readsAs_where (by simp [IsUpperWord]) (hq.filter c h) prev,
      tokenizeFrom_fromGroup hq]

theorem tokenizeFrom_fromJoin (hq : q.Valid) (prev : Option Char) :
    tokenizeFrom prev q.fromJoin = q.tokensFromJoin := by
  unfold fromJoin tokensFromJoin
  cases h : q.join with
  | none => exact tokenizeFrom_fromFilter hq prev
  | some j =>
    rw [Option.map_some, Option.getD_some, Option.map_some, Option.getD_some,
      j.tokenizeFrom_append (hq.join j h) prev, tokenizeFrom_fromFilter hq]

/-- After the select list, the lexer reads `FROM`, the table and the rest piece by piece. -/
theorem tokenizeFrom_afterItems (hq : q.Valid) (prev : Option Char) :
    tokenizeFrom prev q.afterItems = blankTokens q.gap2.chars ++ q.fromWord.token .keyword ::
      (blankTokens q.gap3.chars ++ nameToken q.source :: q.tokensFromJoin) := by
  have hks : ∀ w ∈ ["FROM"], IsUpperWord w := by simp [IsUpperWord]
  unfold afterItems
  simp only [List.append_assoc]
  rw [q.gap2.tokenizeFrom_append prev (q.fromWord.head_not_blank hks _),
    q.fromWord.tokenizeFrom_gap readsAs_from hks none (by simp) q.gap3
      (IsWord.head_starts q.ident.word _),
    q.ident.tokenizeFrom none (stopsWord_of_head_blank q.fromJoin_head), tokenizeFrom_fromJoin hq]
  rfl

/-- The lexer reads a query of the readers' shape piece by piece. -/
theorem tokenize_text (hq : q.Valid) : tokenize (String.ofList q.chars) = q.tokens := by
  unfold tokenize chars
  simp only [String.toList_ofList, List.append_assoc]
  rw [q.select.tokenizeFrom_gap readsAs_select (by simp [IsUpperWord]) none (by simp) q.gap1
      (hq.items.head_append _), hq.items.reads, tokenizeFrom_afterItems hq]
  simp [tokens]

end Select

end QueryDiagram.Query
