import QueryDiagram.Proofs.Query.Keywords

/-!
What reading gives back, whatever the text.

Reading runs its clause readers over the tokens of the trimmed text. What they return obeys a
few rules for every text, not only for queries of the readers' shape:

* a table named after `FROM` is never empty (`mem_tablesFrom_ne`);
* a join's table is never empty and has no blank at either end: the text search takes a
  word, and the token search trims the name it finds (`mem_joinsIn_table`);
* the selected columns are keyed once each, and `*` is listed under the key `*` only
  (`ColumnsSound`). The lexer reads a `*` as a wildcard and a blank as a blank, so no name it
  reads starts with either (`name_head_of_mem_tokenizeFrom`), and no column read from a name
  is `*`.

Main statements: `parse_tables_ne`, `parse_joins_table`, `parse_columnsSound`.
-/

namespace QueryDiagram.Text

-- ============================================================ trimming

theorem trimChars_eq_rdropWhile (cs : List Char) :
    trimChars cs = (cs.dropWhile isBlank).rdropWhile isBlank := rfl

/-- What trimming keeps starts with no blank. -/
theorem head_trimChars (cs : List Char) : ∀ c ∈ (trimChars cs).head?, isBlank c = false := by
  intro c hc
  rw [trimChars_eq_rdropWhile] at hc
  have hne : (cs.dropWhile isBlank).rdropWhile isBlank ≠ [] := by
    rintro h
    rw [h] at hc
    cases hc
  have hhead := (List.rdropWhile_prefix isBlank (cs.dropWhile isBlank)).head hne
  rw [List.head?_eq_some_head hne, Option.mem_def, Option.some.injEq] at hc
  rw [← hc, hhead]
  exact List.head_dropWhile_not isBlank _

/-- What trimming keeps ends with no blank. -/
theorem getLast_trimChars (cs : List Char) :
    ∀ c ∈ (trimChars cs).getLast?, isBlank c = false := by
  intro c hc
  rw [trimChars_eq_rdropWhile] at hc
  have hne : (cs.dropWhile isBlank).rdropWhile isBlank ≠ [] := by
    rintro h
    rw [h] at hc
    cases hc
  rw [List.getLast?_eq_some_getLast hne, Option.mem_def, Option.some.injEq] at hc
  rw [← hc]
  simpa using List.rdropWhile_last_not isBlank _ hne

/-- Trimming twice is trimming once. -/
theorem trim_trim (s : String) : trim (trim s) = trim s := by
  rw [trim]
  conv => rhs; rw [trim]
  exact Query.trim_ofList_of_ends (head_trimChars _) (getLast_trimChars _)

/-- A text that starts with a character that is no blank keeps that character first when
trimmed. -/
theorem trimChars_cons_of_not_blank {c : Char} {r : List Char} (hc : isBlank c = false) :
    ∃ r', trimChars (c :: r) = c :: r' := by
  rw [trimChars_eq_rdropWhile, List.dropWhile_cons_of_neg (by simp [hc])]
  have hne : (c :: r).rdropWhile isBlank ≠ [] := by
    rw [Ne, List.rdropWhile_eq_nil_iff]
    intro hall
    rw [hall c List.mem_cons_self] at hc
    cases hc
  obtain ⟨d, r', hdr⟩ := List.exists_cons_of_ne_nil hne
  have hhead := (List.rdropWhile_prefix isBlank (c :: r)).head hne
  simp only [hdr, List.head_cons] at hhead
  exact ⟨r', hhead ▸ hdr⟩

end QueryDiagram.Text

namespace QueryDiagram.Sql

open Text

-- ============================================================ words and names

/-- A word holds no blank, so trimming keeps it. -/
theorem IsWord.trim_ofList {w : List Char} (hw : IsWord w) :
    trim (String.ofList w) = String.ofList w :=
  Query.trim_ofList_of_ends (fun c hc => not_isBlank_of_isWordChar (hw.2 c (List.mem_of_head? hc)))
    (fun c hc => not_isBlank_of_isWordChar (hw.2 c (List.mem_of_getLast? hc)))

theorem IsWord.ofList_ne {w : List Char} (hw : IsWord w) : String.ofList w ≠ "" := by
  simpa [String.ofList_eq_empty_iff] using hw.1

/-- The token at a `*` is a wildcard. -/
theorem readToken_star (prev : Option Char) (more : List Char) :
    readToken prev ('*' :: more) = (.wildcard, 1) := by
  simp [readToken, rules, lineCommentRule, blockCommentRule, newlineRule, blankRule, symbolRule,
    isBlank]

/-- A name starts with neither a blank nor a `*`: the lexer reads those as blanks and
wildcards before any rule for names is tried. -/
theorem readToken_name_head {prev : Option Char} {c : Char} {more : List Char} {n : Nat}
    (h : readToken prev (c :: more) = (.name, n)) : isBlank c = false ∧ c ≠ '*' := by
  constructor
  · cases hb : isBlank c with
    | false => rfl
    | true =>
      rw [readToken_blank hb] at h
      split_ifs at h <;> cases h
  · rintro rfl
    rw [readToken_star] at h
    cases h

theorem name_head_of_mem_tokenizeFrom {prev : Option Char} {cs : List Char} {t : Token}
    (ht : t ∈ tokenizeFrom prev cs) (hk : t.kind = .name) :
    ∃ c r, t.text.toList = c :: r ∧ isBlank c = false ∧ c ≠ '*' := by
  induction prev, cs using tokenizeFrom.induct with
  | case1 => simp [tokenizeFrom] at ht
  | case2 prev c cs kind n h _ ih =>
    rw [tokenizeFrom] at ht
    simp only [h, List.mem_cons] at ht
    rcases ht with rfl | ht
    · simp only at hk
      subst hk
      exact ⟨c, _, String.toList_ofList, readToken_name_head h⟩
    · exact ih ht

/-- No name the lexer reads is `*` once trimmed. -/
theorem trim_ne_star_of_mem_tokenize {s : String} {t : Token} (ht : t ∈ tokenize s)
    (hn : t.isName = true) : trim t.text ≠ "*" := by
  obtain ⟨c, r, hcr, hb, hstar⟩ :=
    name_head_of_mem_tokenizeFrom ht (by simpa [Token.isName] using hn)
  obtain ⟨r', hr'⟩ := trimChars_cons_of_not_blank (r := r) hb
  rw [trim, hcr, hr']
  intro heq
  have := congrArg String.toList heq
  simp only [String.toList_ofList] at this
  exact hstar (List.cons.inj this).1

end QueryDiagram.Sql

namespace QueryDiagram.Query

open Sql Text

-- ============================================================ tables

/-- The table found after a `FROM` is not empty. -/
theorem tableAfterFrom_ne {ts : List Token} {name : String} {n : Nat}
    (h : tableAfterFrom ts = (some name, n)) : name ≠ "" := by
  induction ts generalizing n with
  | nil => cases h
  | cons t rest ih =>
    simp only [tableAfterFrom] at h
    split at h
    · cases h
    · split at h
      · split at h
        · rename_i hne
          cases h
          simp only [Bool.and_eq_true, bne_iff_ne, ne_eq] at hne
          exact hne.1
        · cases h
      · -- the scan goes on past a token that is neither a stop nor a name
        have hfst : (tableAfterFrom rest).1 = some name := (Prod.ext_iff.mp h).1
        exact ih (n := (tableAfterFrom rest).2) (Prod.ext hfst rfl)

theorem mem_addTableName {acc : List String} {name t : String} (h : t ∈ addTableName acc name) :
    t ∈ acc ∨ t = name := by
  unfold addTableName at h
  split at h <;> simp_all

/-- Every table named after a `FROM` is not empty. -/
theorem mem_tablesFrom_ne {ts : List Token} {acc : List String} (hacc : ∀ t ∈ acc, t ≠ "")
    {t : String} (h : t ∈ tablesFrom ts acc) : t ≠ "" := by
  fun_induction tablesFrom ts acc with
  | case1 acc => exact hacc t h
  | case2 _ _ acc _ found n hfound ih =>
    refine ih (fun u hu => ?_) h
    -- a table found after `FROM` joins the list, and it is not empty
    cases found with
    | none => exact hacc u hu
    | some name =>
      rcases mem_addTableName hu with hu | rfl
      · exact hacc u hu
      · exact tableAfterFrom_ne hfound
  | case3 _ _ _ _ ih => exact ih hacc h

-- ============================================================ joins

theorem take_spanLength (p : Char → Bool) (cs : List Char) :
    cs.take (spanLength p cs) = cs.takeWhile p := by
  induction cs with
  | nil => rfl
  | cons c cs ih =>
    by_cases hc : p c <;> simp [spanLength, hc, ih]

/-- The word characters at the head of a text, when there is one, are a word. -/
theorem isWord_take_spanLength {cs : List Char} (h : spanLength isWordChar cs ≠ 0) :
    IsWord (cs.take (spanLength isWordChar cs)) := by
  rw [take_spanLength]
  refine ⟨?_, fun c hc => List.mem_takeWhile_imp hc⟩
  cases cs with
  | nil => simp [spanLength] at h
  | cons c cs =>
    by_cases hc : isWordChar c
    · simp [hc]
    · simp [spanLength, hc] at h

/-- The table of a join found in the text is a word. -/
theorem joinTail_table {cs : List Char} {table condition : String} {n : Nat}
    (h : joinTail cs = some (table, condition, n)) :
    ∃ w, table = String.ofList w ∧ IsWord w := by
  simp only [joinTail] at h
  split at h
  · cases h
  · split at h
    · cases h
    · split at h
      · cases h
      · rename_i hw _
        cases h
        simp only [Bool.or_eq_true, decide_eq_true_eq, not_or] at hw
        exact ⟨_, rfl, isWord_take_spanLength hw.1.1.2⟩

theorem joinAt_table {prev : Option Char} {cs : List Char} {j : Join} {n : Nat}
    (h : joinAt prev cs = some (j, n)) : ∃ w, j.table = String.ofList w ∧ IsWord w := by
  simp only [joinAt] at h
  split at h
  · cases h
  · obtain ⟨⟨table, condition, m⟩, ht, hj⟩ := Option.map_eq_some_iff.mp h
    cases hj
    exact joinTail_table ht

theorem mem_joinsFrom_table {prev : Option Char} {cs : List Char} {j : Join}
    (h : j ∈ joinsFrom prev cs) : ∃ w, j.table = String.ofList w ∧ IsWord w := by
  induction prev, cs using joinsFrom.induct with
  | case1 => simp [joinsFrom] at h
  | case2 prev c cs j' n hj _ ih =>
    rw [joinsFrom, hj] at h
    rcases List.mem_cons.mp h with rfl | h
    · exact joinAt_table hj
    · exact ih h
  | case3 prev c cs hj ih =>
    rw [joinsFrom, hj] at h
    exact ih h

/-- The table of a join the tokens spell is a trimmed name that is not empty. -/
theorem joinAfterKeyword_named {kind : String} {ts : List Token} {j : Join} {n : Nat}
    (h : joinAfterKeyword kind ts = (some j, n)) : j.table ≠ "" ∧ trim j.table = j.table := by
  simp only [joinAfterKeyword] at h
  split at h
  · cases h
  · split at h
    · cases h
    · rename_i hne
      cases h
      exact ⟨by simpa using hne, trim_trim _⟩

theorem mem_joinsInTokens_table {ts : List Token} {j : Join} (h : j ∈ joinsInTokens ts) :
    j.table ≠ "" ∧ trim j.table = j.table := by
  fun_induction joinsInTokens ts with
  | case1 | case4 => simp at h
  | case2 _ _ _ _ _ j' n hj ih | case5 _ _ _ _ j' n hj ih =>
    rcases List.mem_append.mp h with h | h
    · rw [Option.mem_toList] at h
      subst h
      exact joinAfterKeyword_named hj
    · exact ih h
  | case3 _ _ _ _ _ ih | case6 _ _ _ _ ih => exact ih h

/-- Every join that reading finds names a table: a text that is not empty and has no blank at
either end. -/
theorem mem_joinsIn_table {sql : String} {ts : List Token} {j : Join} (h : j ∈ joinsIn sql ts) :
    j.table ≠ "" ∧ trim j.table = j.table := by
  unfold joinsIn at h
  split at h
  · exact mem_joinsInTokens_table h
  · obtain ⟨w, hw, hword⟩ := mem_joinsFrom_table h
    rw [hw]
    exact ⟨IsWord.ofList_ne hword, IsWord.trim_ofList hword⟩

-- ============================================================ the selected columns

/-- A keyed list of selected columns in which each key stands once and `*` is listed under no
key but `*`. -/
structure ColumnsSound (kcs : List (String × List String)) : Prop where
  keys : (keysOf kcs).Nodup
  star : ∀ kc ∈ kcs, kc.1 = "*" ∨ "*" ∉ kc.2

theorem keysOf_pushUnder (k v : String) (acc : List (String × List String)) :
    keysOf (pushUnder k v acc) = if k ∈ keysOf acc then keysOf acc else keysOf acc ++ [k] := by
  induction acc with
  | nil => simp [pushUnder, keysOf]
  | cons kv rest ih =>
    obtain ⟨k', vs⟩ := kv
    by_cases hk : k' = k
    · subst hk
      simp [pushUnder, keysOf]
    · have hk' : (k' == k) = false := by simpa using hk
      have hkeys : keysOf ((k', vs) :: pushUnder k v rest) = k' :: keysOf (pushUnder k v rest) :=
        rfl
      have hcons : keysOf ((k', vs) :: rest) = k' :: keysOf rest := rfl
      have hmem : k ∈ keysOf ((k', vs) :: rest) ↔ k ∈ keysOf rest := by
        rw [hcons, List.mem_cons]
        exact or_iff_right (Ne.symm hk)
      rw [pushUnder, hk', if_neg Bool.false_ne_true, hkeys, ih]
      by_cases hm : k ∈ keysOf rest
      · rw [if_pos hm, if_pos (hmem.2 hm), hcons]
      · rw [if_neg hm, if_neg (mt hmem.1 hm), hcons, List.cons_append]

theorem star_pushUnder {acc : List (String × List String)}
    (h : ∀ kc ∈ acc, kc.1 = "*" ∨ "*" ∉ kc.2) (k : String) {v : String} (hv : v ≠ "*") :
    ∀ kc ∈ pushUnder k v acc, kc.1 = "*" ∨ "*" ∉ kc.2 := by
  induction acc with
  | nil => simp [pushUnder, Ne.symm hv]
  | cons kv rest ih =>
    obtain ⟨k', vs⟩ := kv
    have hrest : ∀ kc ∈ rest, kc.1 = "*" ∨ "*" ∉ kc.2 :=
      fun kc hkc => h kc (List.mem_cons_of_mem _ hkc)
    intro kc hkc
    simp only [pushUnder] at hkc
    split at hkc
    · -- the value joins the list of its key
      rcases List.mem_cons.1 hkc with rfl | hkc
      · rcases h (k', vs) List.mem_cons_self with h1 | h1
        · exact .inl h1
        · exact .inr (by simp [h1, Ne.symm hv])
      · exact hrest kc hkc
    · rcases List.mem_cons.1 hkc with rfl | hkc
      · exact h _ List.mem_cons_self
      · exact ih hrest kc hkc

theorem ColumnsSound.pushUnder {acc : List (String × List String)} (h : ColumnsSound acc)
    (k : String) {v : String} (hv : v ≠ "*") : ColumnsSound (pushUnder k v acc) := by
  refine ⟨?_, star_pushUnder h.star k hv⟩
  rw [keysOf_pushUnder]
  split
  · exact h.keys
  · rename_i hk
    exact h.keys.append (List.nodup_singleton k) (by simpa using hk)

theorem ColumnsSound.addStar {acc : List (String × List String)} (h : ColumnsSound acc) :
    ColumnsSound (if (keysOf acc).contains "*" then acc else acc ++ [("*", ["*"])]) := by
  split
  · exact h
  · rename_i hk
    refine ⟨?_, fun kc hkc => ?_⟩
    · rw [keysOf, List.map_append, ← keysOf]
      exact h.keys.append (List.nodup_singleton _) (by simpa using hk)
    · rcases List.mem_append.1 hkc with hkc | hkc
      · exact h.star kc hkc
      · simp_all

/-- The select list is read into a sound keyed list, when no name among the tokens trims to
`*`. -/
theorem selectItems_sound {ts : List Token} {acc : List (String × List String)}
    (hts : ∀ t ∈ ts, t.isName = true → trim t.text ≠ "*") (h : ColumnsSound acc) :
    ColumnsSound (selectItems ts acc) := by
  -- what a later step reads lies further on in the same tokens
  have within : ∀ {l : List Token} {n : Nat} {x : Token} {xs : List Token}, l.drop n = x :: xs →
      ∀ y ∈ x :: xs, y ∈ l := fun hl y hy => List.mem_of_mem_drop (hl ▸ hy)
  fun_induction selectItems ts acc with
  | case1 | case2 | case7 => exact h
  | case3 t rest _ _ _ ih | case10 t rest _ _ _ _ _ ih =>
    exact ih (fun u hu => hts u (List.mem_cons_of_mem t hu)) h
  | case4 t rest _ _ _ _ ih => exact ih (fun u hu => hts u (List.mem_cons_of_mem t hu)) h.addStar
  | case5 t rest _ _ _ _ _ _ v after hv _ ih =>
    refine ih (fun u hu => hts u (List.mem_cons_of_mem t ?_)) h
    exact within hv u (List.mem_of_mem_drop hu)
  | case6 t rest _ _ _ _ htn _ _ v after hv _ _ _ w after' hw ih =>
    have hw' : w ∈ rest := within hv w (List.mem_cons_of_mem v (within hw w List.mem_cons_self))
    refine ih (fun u hu => hts u (List.mem_cons_of_mem t ?_)) ?_
    · exact within hv u (List.mem_cons_of_mem v (within hw u (List.mem_cons_of_mem w hu)))
    · split
      · rename_i hwn
        exact h.pushUnder _ (hts w (List.mem_cons_of_mem t hw') hwn)
      · exact h
  | case8 t rest _ _ _ _ htn _ _ _ _ _ _ _ ih | case9 t rest _ _ _ _ htn _ _ _ ih =>
    exact ih (fun u hu => hts u (List.mem_cons_of_mem t hu))
      (h.pushUnder _ (hts t List.mem_cons_self htn))

/-- The tokens after the first `SELECT` are the last tokens of the statement. -/
theorem afterSelect_suffix (ts : List Token) : afterSelect ts <:+ ts := by
  induction ts with
  | nil => exact List.suffix_refl _
  | cons t rest ih =>
    simp only [afterSelect]
    split
    · exact List.suffix_cons t rest
    · exact ih.trans (List.suffix_cons t rest)

-- ============================================================ reading a text

/-- What reading gives back: the readers run over the tokens of the first statement of the
trimmed text. -/
theorem eq_of_parse_eq_ok {sql : String} {q : Query} (h : parse sql = .ok q) :
    ∃ text : String, q =
      { tables := tablesIn (firstStatement (tokenize text)) ++
          (joinsIn text (firstStatement (tokenize text))).map (·.table)
        joins := joinsIn text (firstStatement (tokenize text))
        columns := columnsIn (firstStatement (tokenize text))
        filters := filtersIn (firstStatement (tokenize text))
        groupBy := groupByIn (firstStatement (tokenize text)) } := by
  simp only [parse] at h
  split at h
  · cases h
  · split at h
    · cases h
    · cases h
      exact ⟨_, rfl⟩

/-- Every table of a read query is named. -/
theorem parse_tables_ne {sql : String} {q : Query} (h : parse sql = .ok q) :
    ∀ t ∈ q.tables, t ≠ "" := by
  obtain ⟨text, rfl⟩ := eq_of_parse_eq_ok h
  intro t ht
  rcases List.mem_append.1 ht with ht | ht
  · exact mem_tablesFrom_ne (fun _ h => by cases h) ht
  · obtain ⟨j, hj, rfl⟩ := List.mem_map.1 ht
    exact (mem_joinsIn_table hj).1

/-- The table of every join of a read query is trimmed and among its tables. -/
theorem parse_joins_table {sql : String} {q : Query} (h : parse sql = .ok q) :
    ∀ j ∈ q.joins, trim j.table = j.table ∧ j.table ∈ q.tables := by
  obtain ⟨text, rfl⟩ := eq_of_parse_eq_ok h
  intro j hj
  exact ⟨(mem_joinsIn_table hj).2, List.mem_append_right _ (List.mem_map_of_mem hj)⟩

/-- The selected columns of a read query are keyed once each, and `*` only under `*`. -/
theorem parse_columnsSound {sql : String} {q : Query} (h : parse sql = .ok q) :
    ColumnsSound q.columns := by
  obtain ⟨text, rfl⟩ := eq_of_parse_eq_ok h
  refine selectItems_sound (fun t ht hn => ?_) ⟨List.nodup_nil, fun _ h => by cases h⟩
  have hfirst := firstStatement_prefix (tokenize text)
  exact trim_ne_star_of_mem_tokenize (hfirst.subset ((afterSelect_suffix _).subset ht)) hn

end QueryDiagram.Query
