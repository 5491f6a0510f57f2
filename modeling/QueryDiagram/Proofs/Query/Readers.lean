import QueryDiagram.Query.Parse

/-!
How the clause readers pass over tokens.

Every clause reader scans a statement's tokens from left to right and reacts to a few of them
only: the statement ends at a semicolon or a `GO` keyword; a table follows `FROM`; a join of
the tokens starts at `JOIN` or at a join kind; the `WHERE` texts start at `WHERE` and stop at
a keyword that opens a later clause; a join condition stops at a clause word; the `GROUP BY`
items start after a keyword reading `GROUP…`. A token that none of them reacts to is *quiet*
(`Token.quiet`), and each reader passes over a run of quiet tokens: it finds nothing there
(the statement's end, tables, joins, the `GROUP BY` list), or it keeps their texts as they are
(the `WHERE` clause, a join condition).

Each reader has one lemma for such a run (`*_append`) and one for the token it reacts to, and
the readings of a whole clause are assembled from them: the table after `FROM`
(`tablesFrom_source`), the join after a plain `JOIN` (`joinAfterKeyword_table`,
`conditionAfterTable_on`), the texts of a condition (`conditionTokens_append`) and of a
`WHERE` clause (`whereTexts_seen_append`), and the items of a `GROUP BY` list.
-/

namespace QueryDiagram.Sql.Token

/-- The words at which some clause reader starts or stops when a plain keyword reads them. -/
def readerWords : List String :=
  ["FROM", "JOIN", "INNER", "LEFT", "RIGHT", "FULL", "WHERE", "ORDER", "HAVING", "LIMIT"]

/-- A token that ends no statement: no semicolon and no `GO` keyword. -/
def continues (t : Token) : Bool :=
  !(t.kind == .punctuation && t.text == ";") && !(t.kind == .keyword && firstWord t.text == "GO")

/-- A plain keyword starting a `GROUP BY` list for the reader of its items. -/
def groupStart (t : Token) : Bool := t.kind == .keyword && t.upperText.startsWith "GROUP"

/-- A plain keyword that ends the `WHERE` texts. -/
def whereStop (t : Token) : Bool :=
  t.kind == .keyword &&
    (t.upperText.startsWith "GROUP" || ["ORDER", "HAVING", "LIMIT"].contains t.upperText)

/-- A token that no clause reader reacts to. -/
def quiet (t : Token) : Bool :=
  t.continues && !(t.kind == .keyword && readerWords.contains t.upperText) && !t.groupStart &&
    !Query.clauseWords.contains t.upperText

section quiet
variable {t : Token} (h : t.quiet = true)
include h

theorem quiet_continues : t.continues = true := by
  simp only [quiet, Bool.and_eq_true] at h
  exact h.1.1.1

theorem quiet_not_readerWord (w : String) (hw : w ∈ readerWords) : t.isKeyword w = false := by
  simp only [quiet, Bool.and_eq_true, Bool.not_eq_true', Bool.and_eq_false_iff] at h
  simp only [isKeyword, Bool.and_eq_false_iff, beq_eq_false_iff_ne]
  rcases h.1.1.2 with hk | hc
  · exact Or.inl (by simpa using hk)
  · exact Or.inr fun e => by simp [e, hw] at hc

theorem quiet_not_joinKind : t.isKeywordIn Query.joinKinds = false := by
  simp only [quiet, Bool.and_eq_true, Bool.not_eq_true', Bool.and_eq_false_iff] at h
  simp only [isKeywordIn, Bool.and_eq_false_iff]
  rcases h.1.1.2 with hk | hc
  · exact Or.inl hk
  · refine Or.inr ?_
    simp only [List.contains_eq_mem, decide_eq_false_iff_not] at hc ⊢
    have hsub : Query.joinKinds ⊆ readerWords := by simp [Query.joinKinds, readerWords]
    exact fun hm => hc (hsub hm)

theorem quiet_not_groupStart : t.groupStart = false := by
  simp only [quiet, Bool.and_eq_true, Bool.not_eq_true'] at h
  exact h.1.2

theorem quiet_not_whereStop : t.whereStop = false := by
  simp only [quiet, groupStart, Bool.and_eq_true, Bool.not_eq_true', Bool.and_eq_false_iff] at h
  simp only [whereStop, Bool.and_eq_false_iff, Bool.or_eq_false_iff]
  rcases h.1.1.2 with hk | hc
  · exact Or.inl hk
  · rcases h.1.2 with hk' | hg
    · exact Or.inl hk'
    · refine Or.inr ⟨hg, ?_⟩
      simp only [List.contains_eq_mem, decide_eq_false_iff_not] at hc ⊢
      have hsub : ["ORDER", "HAVING", "LIMIT"] ⊆ readerWords := by simp [readerWords]
      exact fun hm => hc (hsub hm)

theorem quiet_not_clauseWord : Query.clauseWords.contains t.upperText = false := by
  simp only [quiet, Bool.and_eq_true, Bool.not_eq_true'] at h
  exact h.2

end quiet

end QueryDiagram.Sql.Token

namespace QueryDiagram.Query

open Sql Text

-- ============================================================ the statement

theorem endsStatement_of_continues {t : Token} (h : t.continues = true) (n : Nesting) :
    endsStatement n t = false := by
  simp only [Token.continues, Bool.and_eq_true, Bool.not_eq_true'] at h
  simp only [endsStatement, Bool.and_assoc, h.1, h.2, Bool.and_false, Bool.or_false]

/-- A statement none of whose tokens ends it is the first statement whole. -/
theorem firstStatementFrom_of_continues (n : Nesting) {ts : List Token}
    (h : ∀ t ∈ ts, t.continues = true) : firstStatementFrom n ts = ts := by
  induction ts generalizing n with
  | nil => rfl
  | cons t rest ih =>
    simp only [List.mem_cons, forall_eq_or_imp] at h
    simp only [firstStatementFrom, endsStatement_of_continues h.1, Bool.false_eq_true, if_false,
      ih _ h.2]

-- ============================================================ tables

/-- The table search passes over tokens that hold no `FROM`. -/
theorem tablesFrom_append {A : List Token} (B : List Token) (acc : List String)
    (h : ∀ t ∈ A, t.isKeyword "FROM" = false) : tablesFrom (A ++ B) acc = tablesFrom B acc := by
  induction A with
  | nil => rfl
  | cons t A ih =>
    simp only [List.mem_cons, forall_eq_or_imp] at h
    rw [List.cons_append, tablesFrom, if_neg (by simp [h.1]), ih h.2]

theorem tableAfterFrom_pass {t : Token} (rest : List Token)
    (h1 : t.isKeywordIn tableStops = false) (h2 : t.isName = false) :
    tableAfterFrom (t :: rest) = ((tableAfterFrom rest).1, (tableAfterFrom rest).2 + 1) := by
  cases rest with
  | nil => simp [tableAfterFrom, h1, h2]
  | cons u more => rw [tableAfterFrom.eq_2]; simp [h1, h2]

/-- After `FROM`, tokens that are neither names nor stop keywords are passed over, and the
first name is the table; the token right after it tells how far the scan goes. -/
theorem tableAfterFrom_name {B rest : List Token} {t : Token}
    (hB : ∀ u ∈ B, u.isKeywordIn tableStops = false ∧ u.isName = false)
    (htn : t.isKeywordIn tableStops = false) (ht : t.isName = true)
    (hname : trim t.text ≠ "" ∧ upper (trim t.text) ≠ "AS")
    (hnext : ∀ u ∈ rest.head?, u.upperText ≠ "AS" ∧ u.isName = false) :
    tableAfterFrom (B ++ t :: rest) = (some (trim t.text), B.length + 1) := by
  induction B with
  | nil =>
    cases rest with
    | nil => simp [tableAfterFrom, htn, ht, hname.1, hname.2]
    | cons u more =>
      obtain ⟨hu1, hu2⟩ := hnext u rfl
      rw [List.nil_append, tableAfterFrom.eq_2]
      simp [htn, ht, hname.1, hname.2, hu1, hu2]
  | cons u B ih =>
    simp only [List.mem_cons, forall_eq_or_imp] at hB
    rw [List.cons_append, tableAfterFrom_pass _ hB.1.1 hB.1.2, ih hB.2]
    simp

/-- The tables of a statement with one `FROM`, followed by tokens passed over and a name:
that name alone. -/
theorem tablesFrom_source {A B rest : List Token} {f t : Token}
    (hA : ∀ u ∈ A, u.isKeyword "FROM" = false) (hf : f.isKeyword "FROM" = true)
    (hB : ∀ u ∈ B, u.isKeywordIn tableStops = false ∧ u.isName = false)
    (htn : t.isKeywordIn tableStops = false) (ht : t.isName = true)
    (hname : trim t.text ≠ "" ∧ upper (trim t.text) ≠ "AS")
    (hnext : ∀ u ∈ rest.head?, u.upperText ≠ "AS" ∧ u.isName = false)
    (hrest : ∀ u ∈ rest, u.isKeyword "FROM" = false) :
    tablesFrom (A ++ f :: (B ++ t :: rest)) [] = [trim t.text] := by
  rw [tablesFrom_append _ _ hA, tablesFrom, if_pos hf,
    tableAfterFrom_name hB htn ht hname hnext]
  have hdrop : (B ++ t :: rest).drop (B.length + 1) = rest := by simp
  simp only [hdrop, Option.map_some, Option.getD_some]
  simpa [addTableName, tablesFrom] using tablesFrom_append (A := rest) [] [trim t.text] hrest

-- ============================================================ joins in the tokens

theorem joinsInTokens_pass {t : Token} (rest : List Token)
    (h1 : t.isKeywordIn joinKinds = false) (h2 : t.isKeyword "JOIN" = false) :
    joinsInTokens (t :: rest) = joinsInTokens rest := by
  have h1' : (t.kind == .keyword && joinKinds.contains t.upperText) = false := h1
  cases rest with
  | nil => simp only [joinsInTokens, h1', h2, Bool.false_eq_true, ↓reduceIte]
  | cons u more => simp only [joinsInTokens.eq_2, h1', h2, Bool.false_eq_true, ↓reduceIte]

/-- The join search of the tokens passes over tokens that are neither a join kind nor `JOIN`. -/
theorem joinsInTokens_append {A : List Token} (B : List Token)
    (h : ∀ t ∈ A, t.isKeywordIn joinKinds = false ∧ t.isKeyword "JOIN" = false) :
    joinsInTokens (A ++ B) = joinsInTokens B := by
  induction A with
  | nil => rfl
  | cons t A ih =>
    simp only [List.mem_cons, forall_eq_or_imp] at h
    rw [List.cons_append, joinsInTokens_pass _ h.1.1 h.1.2, ih h.2]

/-- Tokens with no join kind and no `JOIN` spell no join. -/
theorem joinsInTokens_of_none {ts : List Token}
    (h : ∀ t ∈ ts, t.isKeywordIn joinKinds = false ∧ t.isKeyword "JOIN" = false) :
    joinsInTokens ts = [] := by
  simpa [joinsInTokens] using joinsInTokens_append [] h

/-- At a plain `JOIN`, the join after it is read as an inner join, and the search goes on
after it. -/
theorem joinsInTokens_join {j : Token} (rest : List Token) (hj : j.isKeyword "JOIN" = true) :
    joinsInTokens (j :: rest) = (joinAfterKeyword "INNER" rest).1.toList ++
      joinsInTokens (rest.drop (joinAfterKeyword "INNER" rest).2) := by
  have h1 : (j.kind == .keyword && joinKinds.contains j.upperText) = false := by
    simp only [Token.isKeyword, Bool.and_eq_true, beq_iff_eq] at hj
    simp [hj.2, joinKinds]
  cases rest with
  | nil => simp only [joinsInTokens, h1, hj, Bool.false_eq_true, ↓reduceIte]
  | cons u more => simp only [joinsInTokens.eq_2, h1, hj, Bool.false_eq_true, ↓reduceIte]

/-- After a join keyword, tokens that are not names are passed over and the first name is the
joined table; the condition is the one after it. -/
theorem joinAfterKeyword_table (kind : String) {B rest : List Token} {t : Token}
    (hB : ∀ u ∈ B, u.isName = false) (ht : t.isName = true) (hname : trim t.text ≠ "") :
    joinAfterKeyword kind (B ++ t :: rest) =
      (some ⟨kind, trim t.text, (conditionAfterTable rest).1.getD ""⟩,
        B.length + 1 + (conditionAfterTable rest).2) := by
  have hskip : ((B ++ t :: rest).takeWhile (!·.isName)).length = B.length := by
    rw [List.takeWhile_append_of_pos (by simpa using hB)]
    simp [ht]
  have hdrop : (B ++ t :: rest).drop B.length = t :: rest := by simp
  simp only [joinAfterKeyword, hskip, hdrop, String.isEmpty_iff, hname, if_false]

/-- The condition after the joined table is what follows the first `ON`, where no clause
keyword comes before it. -/
theorem conditionAfterTable_on {A rest : List Token} {o : Token}
    (hA : ∀ u ∈ A, u.isKeyword "ON" = false ∧ u.isKeywordIn clauseWords = false)
    (ho : o.isKeyword "ON" = true) :
    conditionAfterTable (A ++ o :: rest) =
      (some (trim (" ".intercalate (conditionTokens 0 rest).1)),
        A.length + 1 + (conditionTokens 0 rest).2) := by
  induction A with
  | nil => simp [conditionAfterTable, ho, Nat.add_comm]
  | cons u A ih =>
    simp only [List.mem_cons, forall_eq_or_imp] at hA
    rw [List.cons_append, conditionAfterTable, if_neg (by simp [hA.1.1]),
      if_neg (by simp [hA.1.2]), ih hA.2]
    simp only [List.length_cons]
    congr 1
    omega

-- ============================================================ join conditions

/-- How a join condition counts brackets: one more after `(`, one less after `)`. -/
def depthStep (d : Int) (t : Token) : Int :=
  if t.text == "(" then d + 1 else if t.text == ")" then d - 1 else d

/-- A condition keeps the texts of tokens that read no clause word, counting their brackets. -/
theorem conditionTokens_append {A : List Token} (B : List Token) (d : Int)
    (h : ∀ t ∈ A, clauseWords.contains t.upperText = false) :
    conditionTokens d (A ++ B) =
      (A.map (·.text) ++ (conditionTokens (A.foldl depthStep d) B).1,
        A.length + (conditionTokens (A.foldl depthStep d) B).2) := by
  induction A generalizing d with
  | nil => simp
  | cons t A ih =>
    simp only [List.mem_cons, forall_eq_or_imp] at h
    rw [List.cons_append, conditionTokens]
    simp only [h.1, Bool.false_and, Bool.false_eq_true, if_false]
    rw [ih _ h.2]
    simp only [List.map_cons, List.cons_append, List.length_cons, List.foldl_cons, depthStep]
    exact Prod.ext rfl (by simp only; omega)

/-- A condition stops at a clause word outside brackets. -/
theorem conditionTokens_stop {t : Token} (rest : List Token)
    (h : clauseWords.contains t.upperText = true) (hb : t.text ≠ "(" ∧ t.text ≠ ")") :
    conditionTokens 0 (t :: rest) = ([], 0) := by
  have hd : (if (t.text == "(") = true then (0 : Int) + 1
      else if (t.text == ")") = true then 0 - 1 else 0) = 0 := by
    simp [hb.1, hb.2]
  rw [conditionTokens, hd]
  simp only [h, beq_self_eq_true, Bool.and_self, ↓reduceIte]

-- ============================================================ the WHERE clause

/-- Before a `WHERE`, the reader of the clause passes over every token. -/
theorem whereTexts_unseen_append {A : List Token} (B : List Token)
    (h : ∀ t ∈ A, t.isKeyword "WHERE" = false) :
    whereTexts false (A ++ B) = whereTexts false B := by
  induction A with
  | nil => rfl
  | cons t A ih =>
    simp only [List.mem_cons, forall_eq_or_imp] at h
    rw [List.cons_append, whereTexts, if_neg (by simp [h.1]), if_neg (by simp), ih h.2]

/-- After a `WHERE`, the reader keeps the texts of tokens up to a keyword of a later clause. -/
theorem whereTexts_seen_append {A : List Token} (B : List Token)
    (h : ∀ t ∈ A, t.isKeyword "WHERE" = false ∧ t.whereStop = false) :
    whereTexts true (A ++ B) = A.map (·.text) ++ whereTexts true B := by
  induction A with
  | nil => rfl
  | cons t A ih =>
    simp only [List.mem_cons, forall_eq_or_imp] at h
    have hs : (t.kind == .keyword && (t.upperText.startsWith "GROUP" ||
        ["ORDER", "HAVING", "LIMIT"].contains t.upperText)) = false := h.1.2
    rw [List.cons_append, whereTexts, if_neg (by simp [h.1.1]), if_pos rfl,
      if_neg (by rw [hs]; exact Bool.false_ne_true), ih h.2]
    rfl

/-- At `WHERE`, the reader starts keeping texts. -/
theorem whereTexts_where {t : Token} (seen : Bool) (rest : List Token)
    (h : t.isKeyword "WHERE" = true) : whereTexts seen (t :: rest) = whereTexts true rest := by
  rw [whereTexts, if_pos h]

/-- At a keyword of a later clause, the reader stops. -/
theorem whereTexts_stop {t : Token} (rest : List Token) (h1 : t.isKeyword "WHERE" = false)
    (h : t.whereStop = true) : whereTexts true (t :: rest) = [] := by
  have hs : (t.kind == .keyword && (t.upperText.startsWith "GROUP" ||
      ["ORDER", "HAVING", "LIMIT"].contains t.upperText)) = true := h
  rw [whereTexts, if_neg (by simp [h1]), if_pos rfl, if_pos hs]

-- ============================================================ the GROUP BY list

theorem afterGroup_pass {t : Token} (rest : List Token) (h : t.groupStart = false) :
    afterGroup (t :: rest) = afterGroup rest := by
  have h1 : (t.kind == .keyword && t.upperText.startsWith "GROUP") = false := h
  cases rest with
  | nil => simp [afterGroup, h1]
  | cons u more => rw [afterGroup.eq_2]; simp [h1]

/-- The search for a `GROUP BY` list passes over tokens that start none. -/
theorem afterGroup_append {A : List Token} (B : List Token) (h : ∀ t ∈ A, t.groupStart = false) :
    afterGroup (A ++ B) = afterGroup B := by
  induction A with
  | nil => rfl
  | cons t A ih =>
    simp only [List.mem_cons, forall_eq_or_imp] at h
    rw [List.cons_append, afterGroup_pass _ h.1, ih h.2]

/-- The list starts right after its keyword when no separate `BY` follows it. -/
theorem afterGroup_start {t u : Token} (more : List Token) (ht : t.groupStart = true)
    (hu : u.upperText ≠ "BY") : afterGroup (t :: u :: more) = u :: more := by
  have h1 : (t.kind == .keyword && t.upperText.startsWith "GROUP") = true := ht
  rw [afterGroup.eq_2]
  simp [h1, hu]

/-- The items' reader passes over filler that is no keyword of a later clause. -/
theorem groupItems_append_filler {A : List Token} (B : List Token)
    (h : ∀ t ∈ A, t.isKeywordIn ["ORDER", "HAVING", "LIMIT"] = false ∧ t.isFiller = true) :
    groupItems (A ++ B) = groupItems B := by
  induction A with
  | nil => rfl
  | cons t A ih =>
    simp only [List.mem_cons, forall_eq_or_imp] at h
    rw [List.cons_append, groupItems, if_neg (by simp [h.1.1]), if_pos h.1.2, ih h.2]

/-- The items' reader stops at a keyword of a later clause. -/
theorem groupItems_stop {t : Token} (rest : List Token)
    (h : t.isKeywordIn ["ORDER", "HAVING", "LIMIT"] = true) : groupItems (t :: rest) = [] := by
  rw [groupItems, if_pos h]

/-- A name that no full stop follows, after filler, is an item of its own. -/
theorem groupItems_bare {t : Token} (rest : List Token)
    (hs : t.isKeywordIn ["ORDER", "HAVING", "LIMIT"] = false) (hf : t.isFiller = false)
    (hn : t.isName = true) (hnext : ∀ u ∈ (rest.drop (fillerCount rest)).head?, u.text ≠ ".") :
    groupItems (t :: rest) = trim t.text :: groupItems rest := by
  rw [groupItems]
  simp only [hs, hf, hn, Bool.false_eq_true, ↓reduceIte]
  split
  · rename_i u more hu
    have hu' : u.text ≠ "." := hnext u (by rw [hu]; rfl)
    simp [hu']
  · rfl

/-- A name, a full stop and a name make one item `table.column`. -/
theorem groupItems_qualified {t d v : Token} (rest : List Token)
    (hs : t.isKeywordIn ["ORDER", "HAVING", "LIMIT"] = false) (hf : t.isFiller = false)
    (hn : t.isName = true) (hdf : d.isFiller = false) (hd : d.text = ".")
    (hvf : v.isFiller = false) (hv : v.isName = true) :
    groupItems (t :: d :: v :: rest) = (trim t.text ++ "." ++ trim v.text) :: groupItems rest := by
  have h1 : fillerCount (d :: v :: rest) = 0 := by simp [fillerCount, hdf]
  have h2 : fillerCount (v :: rest) = 0 := by simp [fillerCount, hvf]
  rw [groupItems]
  simp only [hs, hf, hn, Bool.false_eq_true, ↓reduceIte]
  split
  · rename_i u more hu
    rw [h1, List.drop_zero, List.cons.injEq] at hu
    obtain ⟨rfl, rfl⟩ := hu
    simp only [hd, beq_self_eq_true, ↓reduceIte]
    split
    · rename_i w after hw
      rw [h2, List.drop_zero, List.cons.injEq] at hw
      obtain ⟨rfl, rfl⟩ := hw
      simp [hv]
    · rename_i hw
      rw [h2, List.drop_zero] at hw
      cases hw
  · rename_i hu
    rw [h1, List.drop_zero] at hu
    cases hu

end QueryDiagram.Query
