import QueryDiagram.Proofs.Query.Reading

/-!
How a query of the readers' shape is read.

The text of a query of the readers' shape starts with a letter and ends with no blank, so
trimming keeps it (`Select.trim_chars`). Its tokens are one statement, and when it uses none of
the constructs the diagrams cannot show, reading it succeeds with what the clause readers read
in its tokens: the table after `FROM` first among the tables, then the tables of the joins
(`Select.parse_text`).

The joins are those of the text search, which finds the join as written when no alias stands
between its table and `ON`, with the kind written right before `JOIN`; with an alias the text
search finds nothing, and the joins are those the tokens spell, where only `JOIN` alone is a
token of its own (`Select.joinsIn_text`, `Select.parse_joins`). So a `LEFT OUTER JOIN` is
reported as inner and an aliased `LEFT JOIN` is lost (`parse_outer_and_aliased_joins`), and a
second join is read into the first one's condition (`parse_second_join_in_condition`).

The `GROUP BY` list is read whole when a `HAVING` clause or no `ORDER BY` follows it
(`Select.parse_groupBy`); an `ORDER BY` right after it is one keyword token the reader passes,
and its names are read as grouping columns (`parse_group_by_reads_order_by`).

Layout is read too: a blank before the parenthesis of a call, the case of a keyword inside a
condition and a blank after `ON` each change what is read (`parse_depends_on_layout`).
-/

namespace QueryDiagram.Query

open Sql Text

-- ============================================================ the ends of a query

/-- A text whose last character, if it has one, is no blank. -/
def EndsSolid (cs : List Char) : Prop := ∀ c ∈ cs.getLast?, isBlank c = false

theorem EndsSolid.append {a b : List Char} (ha : EndsSolid a) (hb : EndsSolid b) :
    EndsSolid (a ++ b) := by
  intro c hc
  rw [List.getLast?_append] at hc
  cases hbl : b.getLast? with
  | none =>
    rw [hbl, Option.none_or] at hc
    exact ha c hc
  | some d =>
    rw [hbl, Option.some_or] at hc
    exact hb c (hbl ▸ hc)

/-- Whatever comes before it, a text that is not empty decides how the whole ends. -/
theorem EndsSolid.append_right (a : List Char) {b : List Char} (hb : EndsSolid b) (hne : b ≠ []) :
    EndsSolid (a ++ b) := by
  intro c hc
  rw [List.getLast?_append_of_ne_nil _ hne] at hc
  exact hb c hc

theorem Ident.endsSolid {w : List Char} (hw : Ident w) : EndsSolid w :=
  fun c hc => not_isBlank_of_isWordChar (hw.word.2 c (List.mem_of_getLast? hc))

theorem Clause.endsSolid {ks : List String} (c : Clause ks) {r : List Char} (hb : Part c.body r) :
    EndsSolid c.chars :=
  EndsSolid.append_right _ hb.last hb.ne_nil

theorem JoinClause.endsSolid (j : JoinClause) {r : List Char} (hj : j.Valid r) :
    EndsSolid j.chars :=
  EndsSolid.append_right _ hj.condition.last hj.condition.ne_nil

theorem ColumnRef.endsSolid (c : ColumnRef) : EndsSolid c.chars := by
  cases c with
  | bare w hw => exact Ident.endsSolid hw
  | qualified t w _ hw =>
    rw [ColumnRef.chars, show t ++ '.' :: w = (t ++ ['.']) ++ w by simp]
    exact EndsSolid.append_right _ (Ident.endsSolid hw) hw.word.1

theorem ColumnRef.chars_ne_nil (c : ColumnRef) : c.chars ≠ [] := by
  cases c with
  | bare w hw => exact hw.word.1
  | qualified t w _ _ => simp [ColumnRef.chars]

/-- A `GROUP BY` clause ends with its last column. -/
theorem GroupClause.endsSolid (g : GroupClause) : EndsSolid g.chars := by
  have hmore : EndsSolid (g.more.flatMap fun sc => sc.1.chars ++ sc.2.chars) := by
    induction g.more with
    | nil => intro c hc; simp at hc
    | cons sc more ih =>
      rw [List.flatMap_cons]
      exact (EndsSolid.append_right _ sc.2.endsSolid sc.2.chars_ne_nil).append ih
  exact (EndsSolid.append_right _ g.first.endsSolid g.first.chars_ne_nil).append hmore

theorem endsSolid_optional {α : Type} (o : Option α) (f : α → List Char)
    (h : ∀ a ∈ o, EndsSolid (f a)) : EndsSolid ((o.map f).getD []) := by
  cases o with
  | none => intro c hc; simp at hc
  | some a => exact h a rfl

/-- The joins read from a query whose join is `j`: the join as written, found by the text search,
when no alias stands between its table and `ON`; with an alias, those the tokens spell. -/
def JoinClause.joinsRead (j : JoinClause) (after : List String) : List Join :=
  match j.tableAlias with
  | none => [⟨j.kind.reported, String.ofList j.table, String.ofList j.condition⟩]
  | some _ => j.tokenJoins after

namespace Select

variable {q : Select} (hq : q.Valid)
include hq

/-- The clauses of a query end with no blank. -/
theorem endsSolid_fromJoin : EndsSolid q.fromJoin := by
  have hl : EndsSolid q.fromLimit :=
    endsSolid_optional _ _ fun c hc => c.endsSolid (hq.limit c hc)
  have ho : EndsSolid q.fromOrder :=
    (endsSolid_optional _ _ fun c hc => c.endsSolid (hq.order c hc)).append hl
  have hh : EndsSolid q.fromHaving :=
    (endsSolid_optional _ _ fun c hc => c.endsSolid (hq.having c hc)).append ho
  have hg : EndsSolid q.fromGroup :=
    (endsSolid_optional _ _ fun g _ => g.endsSolid).append hh
  have hw : EndsSolid q.fromFilter :=
    (endsSolid_optional _ _ fun c hc => c.endsSolid (hq.filter c hc)).append hg
  exact (endsSolid_optional _ _ fun j hj => j.endsSolid (hq.join j hj)).append hw

/-- A query's text starts with the letter of `SELECT` and ends with no blank, so trimming
keeps it. -/
theorem trim_chars : trim (String.ofList q.chars) = String.ofList q.chars := by
  obtain ⟨c, t, hct, hc⟩ := q.select.head_alpha (by simp [IsUpperWord])
  have hhead : ∀ d ∈ q.chars.head?, isBlank d = false := by
    intro d hd
    simp only [Select.chars, List.append_assoc, hct, List.cons_append, List.head?_cons,
      Option.mem_def, Option.some.injEq] at hd
    exact hd ▸ isBlank_of_isAlpha hc
  have hshape : q.chars = (q.select.chars ++ q.gap1.chars ++ q.items ++ q.gap2.chars ++
      q.fromWord.chars ++ q.gap3.chars ++ q.source) ++ q.fromJoin := by
    simp [Select.chars, Select.afterItems]
  have hlast : EndsSolid q.chars := by
    rw [hshape]
    exact (EndsSolid.append_right _ (Ident.endsSolid q.ident) q.ident.word.1).append
      (endsSolid_fromJoin hq)
  exact trim_ofList_of_ends hhead hlast

-- ============================================================ reading a query

/-- A query of the readers' shape that uses none of the constructs the diagrams cannot show is
read: the table after `FROM` comes first, then the tables of the joins, and the joins, filters
and `GROUP BY` items are those the readers read in its tokens. -/
theorem parse_text (hf : ∀ f : Feature, ¬ f.OccursIn (upperChars q.chars)) :
    parse (String.ofList q.chars) = .ok
      { tables :=
          String.ofList q.source :: (joinsIn (String.ofList q.chars) q.tokens).map (·.table)
        joins := joinsIn (String.ofList q.chars) q.tokens
        columns := columnsIn q.tokens
        filters := filtersIn q.tokens
        groupBy := groupByIn q.tokens } := by
  have hne : String.ofList q.chars ≠ "" := by
    obtain ⟨c, t, hct, -⟩ := q.select.head_alpha (by simp [IsUpperWord])
    simp [Select.chars, hct]
  -- the search for an unsupported construct finds none
  have hnone : Feature.find? (String.ofList q.chars) = none := by
    cases h : Feature.find? (String.ofList q.chars) with
    | none => rfl
    | some f =>
      have h' : Feature.findIn (upperChars q.chars) = some f := by
        simpa [Feature.find?] using h
      exact absurd ((Feature.findIn_eq_some_iff _ f).mp h').1 (hf f)
  simp only [parse, trim_chars hq, String.isEmpty_iff, hne, if_false, hnone, tokenize_text hq,
    firstStatement_tokens hq, tablesIn_tokens hq, List.singleton_append]

-- ============================================================ the joins

/-- The joins of a query: the text search finds the join written when no alias hides it;
otherwise the tokens are searched. -/
theorem joinsIn_text :
    joinsIn (String.ofList q.chars) q.tokens =
      (q.join.map fun j => j.joinsRead (conditionTokens 0 q.tokensFromFilter).1).getD [] := by
  rw [joinsIn, joinsInText_chars hq]
  rcases hj : q.join with _ | j
  · simp [joinsInTokens_tokens hq, hj]
  · rcases ha : j.tableAlias with _ | a
    · simp [JoinClause.found, JoinClause.joinsRead, ha]
    · simp [JoinClause.found, JoinClause.joinsRead, ha, joinsInTokens_tokens hq, hj]

/-- What reading a query of the readers' shape reports of its join: the join as written, with
the kind the text search sees right before `JOIN`, when no alias follows the table; with an
alias, the inner join the tokens spell for `JOIN` alone and nothing for a join with its kind.
The tables are the one after `FROM` and the joined ones. -/
theorem parse_joins (hf : ∀ f : Feature, ¬ f.OccursIn (upperChars q.chars)) :
    ∃ r, parse (String.ofList q.chars) = .ok r ∧
      r.joins =
        (q.join.map fun j => j.joinsRead (conditionTokens 0 q.tokensFromFilter).1).getD [] ∧
      r.tables = String.ofList q.source :: r.joins.map (·.table) :=
  ⟨_, parse_text hq hf, joinsIn_text hq, rfl⟩

/-- Reading a query of the readers' shape reports its `GROUP BY` columns, in order, when a
`HAVING` clause or no `ORDER BY` follows the list. -/
theorem parse_groupBy (hf : ∀ f : Feature, ¬ f.OccursIn (upperChars q.chars))
    (hnext : q.having.isSome ∨ q.order = none) :
    ∃ r, parse (String.ofList q.chars) = .ok r ∧
      r.groupBy = (q.group.map fun g => g.columns.map ColumnRef.text).getD [] := by
  refine ⟨_, parse_text hq hf, ?_⟩
  rw [groupByIn_tokens hq, groupItems_fromHaving q hnext]
  cases q.group <;> simp

end Select

-- ============================================================ where the clauses run on

/-- The lexer reads `ORDER BY` as one keyword, which the `GROUP BY` reader does not stop at: the
names of the ordering are read as grouping columns. -/
theorem parse_group_by_reads_order_by :
    ((parse "SELECT * FROM t GROUP BY t.a ORDER BY t.b").map (·.groupBy)).toOption =
      some ["t.a", "t.b"] := by
  decide +kernel

-- ============================================================ where the joins go wrong

/-- The text search reports the kind written right before `JOIN`, so a `LEFT OUTER JOIN` is
reported as inner; and with an alias after the table the text search finds nothing while the
tokens hold one keyword `LEFT JOIN`, so the join is lost. -/
theorem parse_outer_and_aliased_joins :
    ((parse "SELECT * FROM a LEFT OUTER JOIN b ON a.x = b.y").map (·.joins)).toOption =
      some [⟨"INNER", "b", "a.x = b.y"⟩] ∧
    ((parse "SELECT * FROM a LEFT JOIN b AS x ON a.k = x.k").map
      fun r => (r.tables, r.joins)).toOption = some (["a"], []) := by
  constructor <;> decide +kernel

/-- A join condition runs to the next clause word or the end of the text, past any later join:
the second join is read as part of the first one's condition. -/
theorem parse_second_join_in_condition :
    ((parse "SELECT * FROM a JOIN b ON a.x = b.y JOIN c ON b.y = c.z").map
      fun r => (r.tables, r.joins)).toOption =
      some (["a", "b"], [⟨"INNER", "b", "a.x = b.y JOIN c ON b.y = c.z"⟩]) := by
  decide +kernel

-- ============================================================ where layout counts

/-- What is read depends on blanks and on the case of keywords. A call written right against
its parenthesis is one token that the column reader passes over, while with a blank between
them the wildcard inside is read as a column; a condition keeps its keywords as written; and
the text search for a join needs a blank after `ON`, without which the tokens give the join no
condition. -/
theorem parse_depends_on_layout :
    ((parse "SELECT COUNT(*) FROM t").map (·.columns)).toOption = some [] ∧
    ((parse "SELECT COUNT (*) FROM t").map (·.columns)).toOption = some [("*", ["*"])] ∧
    ((parse "SELECT * FROM t WHERE t.a IS NULL").map (·.filters)).toOption =
      some [("t", ["t . a   IS   NULL"])] ∧
    ((parse "select * from t where t.a is null").map (·.filters)).toOption =
      some [("t", ["t . a   is   null"])] ∧
    ((parse "SELECT * FROM a JOIN b ON(a.x = b.y)").map (·.joins)).toOption =
      some [⟨"INNER", "b", ""⟩] ∧
    ((parse "SELECT * FROM a JOIN b ON (a.x = b.y)").map (·.joins)).toOption =
      some [⟨"INNER", "b", "(a.x = b.y)"⟩] := by
  refine ⟨?_, ?_, ?_, ?_, ?_, ?_⟩ <;> decide +kernel

end QueryDiagram.Query
