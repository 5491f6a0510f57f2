import QueryDiagram.Proofs.Query.Keywords

/-!
What the clause readers read in a query of the readers' shape.

The readers walk the tokens of a query (`Select.tokenize_text`) and react to a few keywords
only, so each finds in a query its own clause and reads it to the next keyword it stops at:

* the query is one statement (`Select.firstStatement_tokens`);
* the table after `FROM` is the table written (`Select.tablesIn_tokens`);
* the joins the tokens spell are the join written with `JOIN` alone, whose condition runs on
  after the join to the next clause word outside brackets, and none for a join with its kind,
  whose keyword is one token that is neither a kind nor `JOIN` (`Select.joinsInTokens_tokens`);
* the `WHERE` texts are those of the clause's blanks and text, and what the reader takes after
  the clause (`Select.whereTexts_tokens`);
* the `GROUP BY` items are the columns of the list, and what the reader takes after the clause
  (`Select.groupByIn_tokens`).

What a reader takes after its clause is the blanks before the next clause, unless the lexer
reads the next clause's keyword as one token that the reader does not stop at: `ORDER BY` for
all three, and `GROUP BY` for a join condition (`Select.whereTexts_fromGroup`,
`Select.conditionTokens_fromFilter`, `Select.groupItems_fromHaving`).
-/

namespace QueryDiagram.Query

open Sql Text

-- ============================================================ the statement

/-- A query of the readers' shape is one statement: no token of it ends one. -/
theorem Select.firstStatement_tokens {q : Select} (hq : q.Valid) : firstStatement q.tokens = q.tokens := by
  apply firstStatementFrom_of_continues
  rw [q.tokens_eq_filter]
  intro t ht
  rcases List.mem_append.mp ht with ht | ht
  · exact Select.forall_tokensBeforeFilter (fun t ht => Token.quiet_continues ht) hq
      (q.fromWord.continues_token (by simp [IsUpperWord]) _ (by decide))
      (fun j _ => JoinKind.continues_keyword j.keyword) t ht
  · exact Select.forall_tokensFromFilter (fun t ht => Token.quiet_continues ht) hq
      (fun c _ => c.keyword.continues_token (by simp [IsUpperWord]) _ (by decide))
      (fun g _ => g.keyword.continues_token (by simp [IsUpperWord]) _ (by decide))
      (fun c _ => c.keyword.continues_token (by simp [IsUpperWord]) _ (by decide))
      (fun c _ => c.keyword.continues_token (by simp [IsUpperWord]) _ (by decide)) t ht

-- ============================================================ the table

/-- The table search finds the table written after `FROM`, and no other. -/
theorem Select.tablesIn_tokens {q : Select} (hq : q.Valid) :
    tablesIn q.tokens = [String.ofList q.source] := by
  have hf : (q.fromWord.token .keyword).isKeyword "FROM" = true := by
    simp [q.fromWord.isKeyword_single (by simp [IsUpperWord])]
  -- the clauses after the table hold no `FROM`
  have hrest : ∀ u ∈ q.tokensFromJoin, u.isKeyword "FROM" = false :=
    Select.forall_tokensFromJoin (fun t ht => Token.quiet_not_readerWord ht "FROM" (by decide)) hq
      (fun j _ => by simp [JoinKind.isKeyword_keyword j.keyword "FROM" (by simp [IsUpperWord])])
      (fun c _ => by simp [c.keyword.isKeyword_single (by simp [IsUpperWord])])
      (fun g _ => by
        simp [g.keyword.isKeyword_token (by simp [IsUpperWord]) "FROM" (by simp [IsUpperWord])])
      (fun c _ => by simp [c.keyword.isKeyword_single (by simp [IsUpperWord])])
      (fun c _ => by simp [c.keyword.isKeyword_single (by simp [IsUpperWord])])
  have hname : trim (nameToken q.source).text ≠ "" ∧ upper (trim (nameToken q.source).text) ≠ "AS" := by
    simp only [nameToken, Ident.trim_ofList q.ident]
    exact ⟨by simpa using q.ident.word.1, Ident.upper_ne q.ident (by decide +kernel)⟩
  have h := tablesFrom_source (A := q.tokensBeforeFrom) (B := blankTokens q.gap3.chars)
    (fun u hu => Token.quiet_not_readerWord (Select.quiet_tokensBeforeFrom hq u hu) "FROM" (by decide))
    hf (fun u hu => ⟨(Token.Blank.of_mem q.gap3.blank hu).isKeywordIn _,
      (Token.Blank.of_mem q.gap3.blank hu).isName⟩)
    (by simp [Token.isKeywordIn, nameToken]) rfl hname
    (fun u hu => ⟨((q.head_tokensFromJoin u hu).text_ne (c := 'A') (by decide) (by decide)).2,
      (q.head_tokensFromJoin u hu).isName⟩) hrest
  rw [tablesIn, q.tokens_eq_from, h, nameToken, Ident.trim_ofList q.ident]

-- ============================================================ the join in the tokens

/-- Blanks count no brackets. -/
theorem foldl_depthStep_blanks {g : List Char} (hg : ∀ c ∈ g, isBlank c = true) (d : Int) :
    (blankTokens g).foldl depthStep d = d := by
  have hts : ∀ t ∈ blankTokens g, t.Blank := fun t ht => Token.Blank.of_mem hg ht
  generalize blankTokens g = ts at hts
  induction ts with
  | nil => rfl
  | cons t ts ih =>
    simp only [List.mem_cons, forall_eq_or_imp] at hts
    have h1 := (hts.1.text_ne (x := "(") (c := '(') (by decide) (by decide)).1
    have h2 := (hts.1.text_ne (x := ")") (c := ')') (by decide) (by decide)).1
    simp only [List.foldl_cons, depthStep, beq_iff_eq, h1, h2, if_false]
    exact ih hts.2

/-- An alias holds no `ON`. -/
theorem Alias.not_on (a : Alias) : ∀ t ∈ a.tokens, t.isKeyword "ON" = false := by
  intro t ht
  simp only [Alias.tokens, List.mem_append, List.mem_singleton] at ht
  rcases ht with (hg | has) | rfl
  · exact (Token.Blank.of_mem a.gap.blank hg).isKeyword _
  · rcases hal : a.as with _ | ⟨p, g⟩
    · simp [hal] at has
    · simp only [hal, Option.map_some, Option.getD_some, List.mem_cons] at has
      rcases has with rfl | hg
      · simp [p.isKeyword_single (by simp [IsUpperWord])]
      · exact (Token.Blank.of_mem g.blank hg).isKeyword _
  · simp [Token.isKeyword, nameToken]

/-- Dropping the tokens a scan has passed: two lists and a token after each, and part of what
follows them. -/
theorem drop_past {α : Type} (B X Y F : List α) (a b : α) (c : Nat) :
    (B ++ a :: (X ++ b :: (Y ++ F))).drop (B.length + 1 + (X.length + 1 + (Y.length + c))) =
      F.drop c := by
  rw [show B ++ a :: (X ++ b :: (Y ++ F)) = (B ++ [a] ++ X ++ [b] ++ Y) ++ F by simp,
    show B.length + 1 + (X.length + 1 + (Y.length + c)) = (B ++ [a] ++ X ++ [b] ++ Y).length + c by
      simp; omega,
    List.drop_append, List.drop_eq_nil_of_le (Nat.le_add_right _ _), Nat.add_sub_cancel_left,
    List.nil_append]

/-- The join that the tokens spell for a join, given the texts its condition's reader takes
after the join: an inner join for `JOIN` alone, whose condition is the text of the blanks and
tokens after `ON` and of those after the join, and none for a join keyword with its kind,
which is one token that is neither a kind nor `JOIN`. -/
def JoinClause.tokenJoins (j : JoinClause) (after : List String) : List Join :=
  if j.kind = .plain then
    [⟨"INNER", String.ofList j.table, trim (" ".intercalate
      ((blankTokens j.gap3.chars ++ tokenizeFrom none j.condition).map (·.text) ++ after))⟩]
  else []

/-- The join search of the tokens at a join, followed by tokens that hold no join keyword:
a plain `JOIN` gives its table and the condition read from `ON` on, and the search goes on
past the condition and finds nothing more. -/
theorem JoinClause.joinsInTokens_tokens (j : JoinClause) {r : List Char} (hj : j.Valid r)
    (F : List Token) (hF : ∀ t ∈ F, t.isKeywordIn joinKinds = false ∧ t.isKeyword "JOIN" = false) :
    joinsInTokens (j.tokens ++ F) = j.tokenJoins (conditionTokens 0 F).1 := by
  by_cases hk : j.kind = .plain
  · -- `JOIN` alone: the table is the first name after it, the condition what follows `ON`
    have hjoin : (j.keyword.token .keyword).isKeyword "JOIN" = true := by
      simp [JoinKind.isKeyword_keyword j.keyword "JOIN" (by simp [IsUpperWord]), hk]
    have hon : (j.on.token .keyword).isKeyword "ON" = true := by
      simp [j.on.isKeyword_single (by simp [IsUpperWord])]
    have hA : ∀ u ∈ (j.tableAlias.map Alias.tokens).getD [] ++ blankTokens j.gap2.chars,
        u.isKeyword "ON" = false ∧ u.isKeywordIn clauseWords = false := by
      intro u hu
      rcases List.mem_append.mp hu with hu | hu
      · have hq : u.quiet = true := forall_optional _ _ (fun a _ => a.quiet_tokens) u hu
        refine ⟨forall_optional _ _ (fun a _ => a.not_on) u hu, ?_⟩
        simp only [Token.isKeywordIn, Token.quiet_not_clauseWord hq, Bool.and_false]
      · exact ⟨(Token.Blank.of_mem j.gap2.blank hu).isKeyword _,
          (Token.Blank.of_mem j.gap2.blank hu).isKeywordIn _⟩
    have hC : ∀ u ∈ blankTokens j.gap3.chars ++ tokenizeFrom none j.condition,
        clauseWords.contains u.upperText = false := by
      intro u hu
      rcases List.mem_append.mp hu with hu | hu
      · exact Token.quiet_not_clauseWord (quiet_of_blankTokens j.gap3.blank u hu)
      · exact Token.quiet_not_clauseWord (hj.condition.quiet u hu)
    -- the condition's brackets close, so its reader goes on outside brackets
    have hdepth : (blankTokens j.gap3.chars ++ tokenizeFrom none j.condition).foldl depthStep 0 = 0 := by
      rw [List.foldl_append, foldl_depthStep_blanks j.gap3.blank, hj.balanced]
    have hshape : j.tokens ++ F = blankTokens j.gap.chars ++ j.keyword.token .keyword ::
        (blankTokens j.gap1.chars ++ nameToken j.table ::
          (((j.tableAlias.map Alias.tokens).getD [] ++ blankTokens j.gap2.chars) ++
            j.on.token .keyword :: ((blankTokens j.gap3.chars ++ tokenizeFrom none j.condition) ++ F))) := by
      simp only [JoinClause.tokens, List.append_assoc, List.cons_append]
    rw [hshape, joinsInTokens_append _ (fun u hu => ⟨(Token.Blank.of_mem j.gap.blank hu).isKeywordIn _,
        (Token.Blank.of_mem j.gap.blank hu).isKeyword _⟩), joinsInTokens_join _ hjoin,
      joinAfterKeyword_table "INNER" (fun u hu => (Token.Blank.of_mem j.gap1.blank hu).isName) rfl
        (by simpa [nameToken, Ident.trim_ofList j.ident] using j.ident.word.1),
      conditionAfterTable_on hA hon, conditionTokens_append F 0 hC, hdepth]
    -- the search goes on in what the condition's reader left of `F`
    rw [drop_past, joinsInTokens_of_none fun t ht => hF t (List.mem_of_mem_drop ht)]
    simp [JoinClause.tokenJoins, hk, nameToken, Ident.trim_ofList j.ident]
  · -- a join keyword with its kind: no token of the join is one the search reacts to
    have hquiet : ∀ t ∈ j.tokens, t.quiet = true :=
      j.forall_tokens (fun _ h => h) hj (JoinKind.quiet_keyword hk j.keyword)
    rw [joinsInTokens_append F (fun t ht => ⟨Token.quiet_not_joinKind (hquiet t ht),
      Token.quiet_not_readerWord (hquiet t ht) "JOIN" (by decide)⟩), joinsInTokens_of_none hF]
    simp [JoinClause.tokenJoins, hk]

/-- The join search of the tokens finds what the tokens of the query's join spell, and nothing
else: the select list, `FROM`, the table and the clauses hold no join keyword. -/
theorem Select.joinsInTokens_tokens {q : Select} (hq : q.Valid) :
    joinsInTokens q.tokens =
      (q.join.map fun j => j.tokenJoins (conditionTokens 0 q.tokensFromFilter).1).getD [] := by
  have hF : ∀ t ∈ q.tokensFromFilter, t.isKeywordIn joinKinds = false ∧ t.isKeyword "JOIN" = false :=
    Select.forall_tokensFromFilter (fun t ht => ⟨Token.quiet_not_joinKind ht,
        Token.quiet_not_readerWord ht "JOIN" (by decide)⟩) hq
      (fun c _ => by simp [c.keyword.isKeyword_single (by simp [IsUpperWord]),
        c.keyword.isKeywordIn_single (by simp [IsUpperWord]), joinKinds])
      (fun g _ => by
        simp [g.keyword.isKeyword_token (by simp [IsUpperWord]) "JOIN" (by simp [IsUpperWord]),
          g.keyword.isKeywordIn_token (by simp [IsUpperWord]) joinKinds
            (by simp [joinKinds, IsUpperWord])])
      (fun c _ => by simp [c.keyword.isKeyword_single (by simp [IsUpperWord]),
        c.keyword.isKeywordIn_single (by simp [IsUpperWord]), joinKinds])
      (fun c _ => by simp [c.keyword.isKeyword_single (by simp [IsUpperWord]),
        c.keyword.isKeywordIn_single (by simp [IsUpperWord]), joinKinds])
  have hP : ∀ t ∈ q.tokensBeforeFrom ++ q.fromWord.token .keyword :: blankTokens q.gap3.chars ++
      [nameToken q.source], t.isKeywordIn joinKinds = false ∧ t.isKeyword "JOIN" = false := by
    intro t ht
    simp only [List.mem_append, List.mem_cons, List.not_mem_nil, or_false] at ht
    rcases ht with ((ht | rfl | ht) | rfl)
    · have h := Select.quiet_tokensBeforeFrom hq t ht
      exact ⟨Token.quiet_not_joinKind h, Token.quiet_not_readerWord h "JOIN" (by decide)⟩
    · simp [q.fromWord.isKeyword_single (by simp [IsUpperWord]),
        q.fromWord.isKeywordIn_single (by simp [IsUpperWord]), joinKinds]
    · exact ⟨(Token.Blank.of_mem q.gap3.blank ht).isKeywordIn _,
        (Token.Blank.of_mem q.gap3.blank ht).isKeyword _⟩
    · simp [Token.isKeywordIn, Token.isKeyword, nameToken]
  have hshape : q.tokens = (q.tokensBeforeFrom ++ q.fromWord.token .keyword ::
      blankTokens q.gap3.chars ++ [nameToken q.source]) ++
        ((q.join.map JoinClause.tokens).getD [] ++ q.tokensFromFilter) := by
    simp [Select.tokens, Select.tokensBeforeFrom, Select.tokensFromJoin]
  rw [hshape, joinsInTokens_append _ hP]
  rcases hj : q.join with _ | j
  · simpa using joinsInTokens_of_none hF
  · simpa using j.joinsInTokens_tokens (hq.join j hj) _ hF

-- ============================================================ the WHERE clause

/-- The `WHERE` reader finds the query's own clause: the texts of the blanks and of the text
after the keyword, then what it takes after the clause. -/
theorem Select.whereTexts_tokens {q : Select} (hq : q.Valid) :
    whereTexts false q.tokens =
      (q.filter.map fun c => (blankTokens c.gap'.chars ++ tokenizeFrom none c.body).map (·.text) ++
        whereTexts true q.tokensFromGroup).getD [] := by
  have hbefore : ∀ t ∈ q.tokensBeforeFilter, t.isKeyword "WHERE" = false :=
    Select.forall_tokensBeforeFilter (fun t ht => Token.quiet_not_readerWord ht "WHERE" (by decide))
      hq (by simp [q.fromWord.isKeyword_single (by simp [IsUpperWord])])
      (fun j _ => by simp [JoinKind.isKeyword_keyword j.keyword "WHERE" (by simp [IsUpperWord])])
  have hG : ∀ t ∈ q.tokensFromGroup, t.isKeyword "WHERE" = false :=
    Select.forall_tokensFromGroup (fun t ht => Token.quiet_not_readerWord ht "WHERE" (by decide)) hq
      (fun g _ => by
        simp [g.keyword.isKeyword_token (by simp [IsUpperWord]) "WHERE" (by simp [IsUpperWord])])
      (fun c _ => by simp [c.keyword.isKeyword_single (by simp [IsUpperWord])])
      (fun c _ => by simp [c.keyword.isKeyword_single (by simp [IsUpperWord])])
  rw [q.tokens_eq_filter, whereTexts_unseen_append _ hbefore, Select.tokensFromFilter]
  rcases hc : q.filter with _ | c
  · simpa [whereTexts] using whereTexts_unseen_append [] hG
  · have hw : (c.keyword.token .keyword).isKeyword "WHERE" = true := by
      simp [c.keyword.isKeyword_single (by simp [IsUpperWord])]
    -- the blanks and the text after the keyword are kept as they are
    have hkeep : ∀ t ∈ blankTokens c.gap'.chars ++ tokenizeFrom none c.body,
        t.isKeyword "WHERE" = false ∧ t.whereStop = false := by
      intro t ht
      have hquiet : t.quiet = true := by
        rcases List.mem_append.mp ht with ht | ht
        · exact quiet_of_blankTokens c.gap'.blank t ht
        · exact (hq.filter c hc).quiet t ht
      exact ⟨Token.quiet_not_readerWord hquiet "WHERE" (by decide), Token.quiet_not_whereStop hquiet⟩
    have hshape : c.tokens ++ q.tokensFromGroup = blankTokens c.gap.chars ++
        c.keyword.token .keyword ::
          ((blankTokens c.gap'.chars ++ tokenizeFrom none c.body) ++ q.tokensFromGroup) := by
      simp [Clause.tokens]
    simp only [Option.map_some, Option.getD_some]
    rw [hshape, whereTexts_unseen_append _ fun u hu => (Token.Blank.of_mem c.gap.blank hu).isKeyword _,
      whereTexts_where _ _ hw, whereTexts_seen_append _ hkeep]

-- ============================================================ where the readers stop

/-- The texts of blank tokens hold blanks only. -/
theorem blank_texts {g : List Char} (hg : ∀ c ∈ g, isBlank c = true) :
    ∀ s ∈ (blankTokens g).map (·.text), ∀ c ∈ s.toList, isBlank c = true := by
  intro s hs
  obtain ⟨t, ht, rfl⟩ := List.mem_map.mp hs
  exact (Token.Blank.of_mem hg ht).text

section stop
variable {k : String} {ks : List String} (c : Clause (k :: ks)) (hk : IsUpperWord k) (r : List Token)

theorem Clause.tokens_append_eq :
    c.tokens ++ r = blankTokens c.gap.chars ++ c.keyword.token .keyword ::
      (blankTokens c.gap'.chars ++ tokenizeFrom none c.body ++ r) := by
  simp [Clause.tokens]

/-- At a clause whose keyword ends the `WHERE` texts, the reader takes the blanks before it. -/
theorem Clause.whereTexts_stop (hs : (c.keyword.token .keyword).whereStop = true)
    (hw : (c.keyword.token .keyword).isKeyword "WHERE" = false) :
    whereTexts true (c.tokens ++ r) = (blankTokens c.gap.chars).map (·.text) := by
  rw [c.tokens_append_eq, whereTexts_seen_append _ fun u hu =>
      ⟨Token.quiet_not_readerWord (quiet_of_blankTokens c.gap.blank u hu) "WHERE" (by decide),
        Token.quiet_not_whereStop (quiet_of_blankTokens c.gap.blank u hu)⟩,
    Query.whereTexts_stop _ hw hs, List.append_nil]

include hk in
/-- At a clause whose keyword is a clause word, a join condition's reader takes the blanks
before it. -/
theorem Clause.conditionTokens_stop (hs : clauseWords.contains (c.keyword.token .keyword).upperText = true) :
    (conditionTokens 0 (c.tokens ++ r)).1 = (blankTokens c.gap.chars).map (·.text) := by
  rw [c.tokens_append_eq, conditionTokens_append _ 0 fun u hu =>
      Token.quiet_not_clauseWord (quiet_of_blankTokens c.gap.blank u hu),
    foldl_depthStep_blanks c.gap.blank,
    Query.conditionTokens_stop _ hs ⟨c.keyword.text_ne hk _ (by simp), c.keyword.text_ne hk _ (by simp)⟩,
    List.append_nil]

/-- At a clause whose keyword ends a `GROUP BY` list, the list's reader takes nothing more. -/
theorem Clause.groupItems_stop (hs : (c.keyword.token .keyword).isKeywordIn ["ORDER", "HAVING", "LIMIT"] = true) :
    groupItems (c.tokens ++ r) = [] := by
  rw [c.tokens_append_eq, groupItems_append_filler _ fun u hu =>
      ⟨(Token.Blank.of_mem c.gap.blank hu).isKeywordIn _, (Token.Blank.of_mem c.gap.blank hu).isFiller⟩,
    Query.groupItems_stop _ hs]

end stop

theorem GroupClause.tokens_append_eq (g : GroupClause) (r : List Token) :
    g.tokens ++ r = blankTokens g.gap.chars ++ g.keyword.token .keyword ::
      (blankTokens g.gap'.chars ++
        (g.first.tokens ++ ((g.more.flatMap fun sc => sc.1.tokens ++ sc.2.tokens) ++ r))) := by
  simp [GroupClause.tokens]

/-- At a `GROUP BY` clause, the `WHERE` reader takes the blanks before it. -/
theorem GroupClause.whereTexts_stop (g : GroupClause) (r : List Token) :
    whereTexts true (g.tokens ++ r) = (blankTokens g.gap.chars).map (·.text) := by
  have hs : (g.keyword.token .keyword).whereStop = true := by
    simp [Token.whereStop, Phrase.kind_token,
      g.keyword.startsWith_upperText (by simp [IsUpperWord]) .keyword (x := "GROUP")
        (by simp [IsUpperWord])]
  have hw : (g.keyword.token .keyword).isKeyword "WHERE" = false := by
    simp [g.keyword.isKeyword_token (by simp [IsUpperWord]) "WHERE" (by simp [IsUpperWord])]
  rw [g.tokens_append_eq, whereTexts_seen_append _ fun u hu =>
      ⟨Token.quiet_not_readerWord (quiet_of_blankTokens g.gap.blank u hu) "WHERE" (by decide),
        Token.quiet_not_whereStop (quiet_of_blankTokens g.gap.blank u hu)⟩,
    Query.whereTexts_stop _ hw hs, List.append_nil]

theorem Phrase.whereStop_single {k : String} (p : Phrase [k]) (hk : IsUpperWord k) :
    (p.token .keyword).whereStop = (k.startsWith "GROUP" || ["ORDER", "HAVING", "LIMIT"].contains k) := by
  simp only [Token.whereStop, Phrase.kind_token, p.upperText_single hk, beq_self_eq_true,
    Bool.true_and]

/-- After the `WHERE` clause, its reader takes the blanks before the next clause, unless that
clause is an `ORDER BY`: the lexer reads `ORDER BY` as one token, which does not stop it. -/
theorem Select.whereTexts_fromGroup (q : Select)
    (h : q.group.isSome ∨ q.having.isSome ∨ q.order = none) :
    ∀ s ∈ whereTexts true q.tokensFromGroup, ∀ c ∈ s.toList, isBlank c = true := by
  rcases hg : q.group with _ | g
  · rcases hh : q.having with _ | c
    · have ho : q.order = none := by simpa [hg, hh] using h
      rcases hl : q.limit with _ | c
      · simp [Select.tokensFromGroup, Select.tokensFromHaving, Select.tokensFromOrder,
          Select.tokensFromLimit, hg, hh, ho, hl, whereTexts]
      · simp only [Select.tokensFromGroup, Select.tokensFromHaving, Select.tokensFromOrder,
          Select.tokensFromLimit, hg, hh, ho, hl, Option.map_none, Option.map_some,
          Option.getD_none, Option.getD_some, List.nil_append]
        rw [← List.append_nil c.tokens, c.whereTexts_stop _
          (by simp [c.keyword.whereStop_single (by simp [IsUpperWord])])
          (by simp [c.keyword.isKeyword_single (by simp [IsUpperWord])])]
        exact blank_texts c.gap.blank
    · simp only [Select.tokensFromGroup, Select.tokensFromHaving, hg, hh, Option.map_none,
        Option.map_some, Option.getD_none, Option.getD_some, List.nil_append]
      rw [c.whereTexts_stop _ (by simp [c.keyword.whereStop_single (by simp [IsUpperWord])])
        (by simp [c.keyword.isKeyword_single (by simp [IsUpperWord])])]
      exact blank_texts c.gap.blank
  · simp only [Select.tokensFromGroup, hg, Option.map_some, Option.getD_some]
    rw [g.whereTexts_stop]
    exact blank_texts g.gap.blank

/-- After a join, its condition's reader takes the blanks before the next clause, unless that
clause is a `GROUP BY` or an `ORDER BY`: the lexer reads each as one token, which is no clause
word. -/
theorem Select.conditionTokens_fromFilter (q : Select)
    (h : q.filter.isSome ∨ q.group = none ∧ (q.having.isSome ∨ q.order = none)) :
    ∀ s ∈ (conditionTokens 0 q.tokensFromFilter).1, ∀ c ∈ s.toList, isBlank c = true := by
  have hword : ∀ {k : String} (c : Clause [k]), k ∈ clauseWords →
      clauseWords.contains (c.keyword.token .keyword).upperText = true := fun c hk => by
    rw [c.keyword.upperText_single (by simp [clauseWords] at hk; rcases hk with rfl | rfl | rfl |
      rfl | rfl <;> simp [IsUpperWord])]
    exact List.elem_eq_true_of_mem hk
  rcases hw : q.filter with _ | c
  · have hg : q.group = none := (h.resolve_left (by simp [hw])).1
    rcases hh : q.having with _ | c
    · have ho : q.order = none := by
        simpa [hh] using (h.resolve_left (by simp [hw])).2
      rcases hl : q.limit with _ | c
      · simp [Select.tokensFromFilter, Select.tokensFromGroup, Select.tokensFromHaving,
          Select.tokensFromOrder, Select.tokensFromLimit, hw, hg, hh, ho, hl, conditionTokens]
      · simp only [Select.tokensFromFilter, Select.tokensFromGroup, Select.tokensFromHaving,
          Select.tokensFromOrder, Select.tokensFromLimit, hw, hg, hh, ho, hl, Option.map_none,
          Option.map_some, Option.getD_none, Option.getD_some, List.nil_append]
        rw [← List.append_nil c.tokens, c.conditionTokens_stop (by simp [IsUpperWord]) _
          (hword c (by simp [clauseWords]))]
        exact blank_texts c.gap.blank
    · simp only [Select.tokensFromFilter, Select.tokensFromGroup, Select.tokensFromHaving, hw, hg,
        hh, Option.map_none, Option.map_some, Option.getD_none, Option.getD_some, List.nil_append]
      rw [c.conditionTokens_stop (by simp [IsUpperWord]) _ (hword c (by simp [clauseWords]))]
      exact blank_texts c.gap.blank
  · simp only [Select.tokensFromFilter, hw, Option.map_some, Option.getD_some]
    rw [c.conditionTokens_stop (by simp [IsUpperWord]) _ (hword c (by simp [clauseWords]))]
    exact blank_texts c.gap.blank

/-- After a `GROUP BY` list, its reader takes nothing more, unless an `ORDER BY` follows it
at once. -/
theorem Select.groupItems_fromHaving (q : Select) (h : q.having.isSome ∨ q.order = none) :
    groupItems q.tokensFromHaving = [] := by
  rcases hh : q.having with _ | c
  · have ho : q.order = none := by simpa [hh] using h
    rcases hl : q.limit with _ | c
    · simp [Select.tokensFromHaving, Select.tokensFromOrder, Select.tokensFromLimit, hh, ho, hl,
        groupItems]
    · simp only [Select.tokensFromHaving, Select.tokensFromOrder, Select.tokensFromLimit, hh, ho,
        hl, Option.map_none, Option.map_some, Option.getD_none, Option.getD_some, List.nil_append]
      rw [← List.append_nil c.tokens, c.groupItems_stop _
        (by simp [c.keyword.isKeywordIn_single (by simp [IsUpperWord])])]
  · simp only [Select.tokensFromHaving, hh, Option.map_some, Option.getD_some]
    rw [c.groupItems_stop _ (by simp [c.keyword.isKeywordIn_single (by simp [IsUpperWord])])]

-- ============================================================ the GROUP BY list

/-- What the reader of a `GROUP BY` list sees after the filler that follows a column is no full
stop, so the column stands alone. -/
def NoDotNext (ts : List Token) : Prop := ∀ u ∈ (ts.drop (fillerCount ts)).head?, u.text ≠ "."

theorem fillerCount_append {A : List Token} (B : List Token) (h : ∀ t ∈ A, t.isFiller = true) :
    fillerCount (A ++ B) = A.length + fillerCount B := by
  simp [fillerCount, List.takeWhile_append_of_pos h]

theorem fillerCount_cons {t : Token} (r : List Token) (h : t.isFiller = false) :
    fillerCount (t :: r) = 0 := by
  simp [fillerCount, h]

theorem noDotNext_of_filler {A : List Token} {t : Token} (r : List Token)
    (hA : ∀ u ∈ A, u.isFiller = true) (ht : t.isFiller = false) (hd : t.text ≠ ".") :
    NoDotNext (A ++ t :: r) := by
  rw [NoDotNext, fillerCount_append _ hA, fillerCount_cons _ ht, Nat.add_zero, List.drop_left]
  simpa using hd

theorem noDotNext_nil : NoDotNext [] := by simp [NoDotNext]

theorem Clause.noDotNext {k : String} {ks : List String} (c : Clause (k :: ks)) (hk : IsUpperWord k)
    (r : List Token) : NoDotNext (c.tokens ++ r) := by
  rw [c.tokens_append_eq]
  exact noDotNext_of_filler _ (fun u hu => (Token.Blank.of_mem c.gap.blank hu).isFiller)
    (c.keyword.isFiller_token hk _) (c.keyword.text_ne hk _ (by simp))

theorem noDotNext_optional {k : String} {ks : List String} (o : Option (Clause (k :: ks)))
    (hk : IsUpperWord k) {r : List Token} (hr : NoDotNext r) :
    NoDotNext ((o.map Clause.tokens).getD [] ++ r) := by
  cases o with
  | none => simpa using hr
  | some c => exact c.noDotNext hk r

/-- After a `GROUP BY` list, the clause that follows starts, after blanks, with its keyword. -/
theorem Select.noDotNext_tokensFromHaving (q : Select) : NoDotNext q.tokensFromHaving :=
  noDotNext_optional q.having (by simp [IsUpperWord]) <|
    noDotNext_optional q.order (by simp [IsUpperWord]) <| by
      simpa [Select.tokensFromLimit] using
        noDotNext_optional q.limit (by simp [IsUpperWord]) noDotNext_nil

theorem ColumnRef.tokens_cons (c : ColumnRef) : ∃ w r, Ident w ∧ c.tokens = nameToken w :: r := by
  cases c with
  | bare w hw => exact ⟨w, [], hw, rfl⟩
  | qualified t w ht _ => exact ⟨t, _, ht, rfl⟩

/-- The reader of a `GROUP BY` list reads a column as the column's text. -/
theorem ColumnRef.groupItems_tokens (c : ColumnRef) (rest : List Token) (hrest : NoDotNext rest) :
    groupItems (c.tokens ++ rest) = c.text :: groupItems rest := by
  have hstop : ∀ w, (nameToken w).isKeywordIn ["ORDER", "HAVING", "LIMIT"] = false := fun w => by
    simp [Token.isKeywordIn, nameToken]
  cases c with
  | bare w hw =>
    rw [ColumnRef.tokens, List.singleton_append,
      groupItems_bare rest (hstop w) (Ident.isFiller hw) rfl hrest]
    simp [ColumnRef.text, nameToken, Ident.trim_ofList hw]
  | qualified t w ht hw =>
    have hdot : (⟨.punctuation, "."⟩ : Token).isFiller = false := by decide +kernel
    simp only [ColumnRef.tokens, List.cons_append, List.nil_append]
    rw [groupItems_qualified rest (hstop t) (Ident.isFiller ht) rfl hdot rfl (Ident.isFiller hw) rfl]
    simp [ColumnRef.text, nameToken, Ident.trim_ofList ht, Ident.trim_ofList hw]

/-- A comma and the blanks around it are filler that ends no list. -/
theorem Separator.filler (s : Separator) :
    ∀ t ∈ s.tokens, t.isKeywordIn ["ORDER", "HAVING", "LIMIT"] = false ∧ t.isFiller = true := by
  intro t ht
  simp only [Separator.tokens, List.mem_append, List.mem_cons] at ht
  rcases ht with hg | rfl | hg
  · exact ⟨(Token.Blank.of_mem s.before.blank hg).isKeywordIn _,
      (Token.Blank.of_mem s.before.blank hg).isFiller⟩
  · exact ⟨rfl, by simp [Token.isFiller]⟩
  · exact ⟨(Token.Blank.of_mem s.after.blank hg).isKeywordIn _,
      (Token.Blank.of_mem s.after.blank hg).isFiller⟩

/-- The reader of a `GROUP BY` list passes over a comma and the blanks around it. -/
theorem Separator.groupItems_tokens (s : Separator) (rest : List Token) :
    groupItems (s.tokens ++ rest) = groupItems rest :=
  groupItems_append_filler _ s.filler

/-- The reader of a `GROUP BY` list reads the columns of a list one by one, then goes on. -/
theorem groupItems_columns (first : ColumnRef) (more : List (Separator × ColumnRef))
    (rest : List Token) (hrest : NoDotNext rest) :
    groupItems (first.tokens ++ ((more.flatMap fun sc => sc.1.tokens ++ sc.2.tokens) ++ rest)) =
      first.text :: (more.map (·.2.text) ++ groupItems rest) := by
  induction more generalizing first with
  | nil => simpa using first.groupItems_tokens rest hrest
  | cons sc more ih =>
    -- after a column come a comma and the next column, which starts with a name
    obtain ⟨w, r, hw, hc⟩ := sc.2.tokens_cons
    have hnext : NoDotNext (sc.1.tokens ++ (sc.2.tokens ++
        ((more.flatMap fun sc => sc.1.tokens ++ sc.2.tokens) ++ rest))) := by
      rw [hc, List.cons_append]
      exact noDotNext_of_filler _ (fun u hu => (sc.1.filler u hu).2) (Ident.isFiller hw)
        (Ident.text_ne_dot hw)
    rw [List.flatMap_cons, List.append_assoc, List.append_assoc, first.groupItems_tokens _ hnext,
      sc.1.groupItems_tokens, ih]
    simp

/-- The `GROUP BY` reader finds the query's own list: the columns of the list, in order, then
what it takes after the clause. -/
theorem Select.groupByIn_tokens {q : Select} (hq : q.Valid) :
    groupByIn q.tokens =
      (q.group.map fun g => g.columns.map ColumnRef.text ++ groupItems q.tokensFromHaving).getD [] := by
  have hbefore : ∀ t ∈ q.tokensBeforeFilter, t.groupStart = false :=
    Select.forall_tokensBeforeFilter (fun t ht => Token.quiet_not_groupStart ht) hq
      (by rw [q.fromWord.groupStart_token (by simp [IsUpperWord])]; decide)
      (fun j _ => JoinKind.groupStart_keyword j.keyword)
  have hfilter : ∀ t ∈ (q.filter.map Clause.tokens).getD [], t.groupStart = false :=
    forall_optional _ _ fun c hc => c.forall_tokens (fun t ht => Token.quiet_not_groupStart ht)
      (hq.filter c hc) (by rw [c.keyword.groupStart_token (by simp [IsUpperWord])]; decide)
  have hafter : ∀ t ∈ q.tokensFromHaving, t.groupStart = false :=
    Select.forall_tokensFromHaving (fun t ht => Token.quiet_not_groupStart ht) hq
      (fun c _ => by rw [c.keyword.groupStart_token (by simp [IsUpperWord])]; decide)
      (fun c _ => by rw [c.keyword.groupStart_token (by simp [IsUpperWord])]; decide)
  rw [groupByIn, q.tokens_eq_filter, Select.tokensFromFilter, Select.tokensFromGroup,
    afterGroup_append _ hbefore, afterGroup_append _ hfilter]
  rcases hg : q.group with _ | g
  · have hnone : afterGroup q.tokensFromHaving = [] := by
      simpa [afterGroup] using afterGroup_append [] hafter
    simp [hnone, groupItems]
  · -- the list starts after the keyword, at the first blank after it, which is no `BY`
    have hstart : (g.keyword.token .keyword).groupStart = true := by
      rw [g.keyword.groupStart_token (by simp [IsUpperWord])]
      decide
    obtain ⟨u, us, hu⟩ := List.exists_cons_of_ne_nil (blankTokens_ne_nil g.gap'.ne_nil)
    have hby : u.upperText ≠ "BY" :=
      ((Token.Blank.of_mem g.gap'.blank (by rw [hu]; exact List.mem_cons_self)).text_ne
        (c := 'B') (by decide) (by decide)).2
    simp only [Option.map_some, Option.getD_some]
    rw [g.tokens_append_eq, afterGroup_append _ fun t ht =>
        Token.quiet_not_groupStart (quiet_of_blankTokens g.gap.blank t ht),
      hu, List.cons_append, afterGroup_start _ hstart hby, ← List.cons_append, ← hu,
      groupItems_append_filler _ fun t ht => ⟨(Token.Blank.of_mem g.gap'.blank ht).isKeywordIn _,
        (Token.Blank.of_mem g.gap'.blank ht).isFiller⟩,
      groupItems_columns _ _ _ q.noDotNext_tokensFromHaving]
    simp [GroupClause.columns]

end QueryDiagram.Query
