import QueryDiagram.Proofs.Joins.Text

/-!
What the clause readers see of each token of a query of the readers' shape.

The readers react to a few keywords only; every other token is `quiet`. In a query of the
readers' shape (`Select.tokenize_text`) the quiet tokens are the blanks, the names, the commas
and full stops, the free texts' tokens, and the keyword phrases that are none of the readers'
words: `SELECT`, `AS`, `ON`, a join keyword with its kind and `ORDER BY`, which the lexer reads
as one token. Each part of a query has one classification lemma, "its keyword or a token no
reader reacts to" (`Clause.mem_tokens`, `JoinClause.mem_tokens`, `GroupClause.mem_tokens`), and
each stretch of a query's tokens one frame lemma built on them (`Select.forall_tokensFromJoin`
and the others): what holds of the quiet tokens and of the keywords present holds of every token.
The keywords themselves are read through their first word (`Phrase.isKeyword_token`,
`Phrase.groupStart_token`, `JoinKind.isKeyword_keyword`).
-/

namespace QueryDiagram.Text

open Sql

-- ============================================================ blanks in upper case

/-- Blanks are their own upper case. -/
theorem upperChar_blank {c : Char} (h : isBlank c = true) : upperChar c = [c] := by
  have hall : ∀ n ∈ blankCodes, upperChar (Char.ofNat n) = [Char.ofNat n] := by decide +kernel
  have := hall _ (toNat_mem_blankCodes h)
  rwa [Char.ofNat_toNat] at this

theorem upperChars_blanks {g : List Char} (hg : ∀ c ∈ g, isBlank c = true) : upperChars g = g := by
  induction g with
  | nil => rfl
  | cons c g ih =>
    simp only [List.mem_cons, forall_eq_or_imp] at hg
    rw [show c :: g = [c] ++ g from rfl, upperChars_append, ih hg.2]
    simp [upperChars, upperChar_blank hg.1]

/-- A text of blanks is none of the words of upper-case letters. -/
theorem contains_blanks {s : String} (hs : ∀ c ∈ s.toList, isBlank c = true) (ws : List String)
    (hws : ∀ w ∈ ws, IsUpperWord w) : ws.contains s = false := by
  rw [List.contains_eq_mem, decide_eq_false_iff_not]
  intro hm
  obtain ⟨c, hc⟩ := List.exists_mem_of_ne_nil _ (fun h => (hws s hm).1 (String.toList_eq_nil_iff.mp h))
  have := hs c hc
  rw [isBlank_of_isAlpha (isAlpha_of_isUpper ((hws s hm).2 c hc))] at this
  cases this

/-- Trimming leaves nothing exactly of a text of blanks. -/
theorem trimChars_eq_nil_iff {cs : List Char} : trimChars cs = [] ↔ ∀ c ∈ cs, isBlank c = true := by
  simp only [trimChars, dropTrailingBlanks, List.reverse_eq_nil_iff, List.dropWhile_eq_nil_iff,
    List.mem_reverse]
  constructor
  · intro h
    -- what is left after the leading blanks starts with no blank, so nothing is left
    have hnil : cs.dropWhile isBlank = [] := by
      by_contra hne
      have := h _ (List.head_mem hne)
      rw [List.head_dropWhile_not isBlank hne] at this
      cases this
    exact List.dropWhile_eq_nil_iff.mp hnil
  · exact fun h c hc => h c ((List.dropWhile_suffix isBlank).subset hc)

end QueryDiagram.Text

namespace QueryDiagram.Sql.Token

open Text

-- ============================================================ blank tokens

/-- A token of a run of blanks: a whitespace or a line break, covering blanks only. -/
structure Blank (t : Token) : Prop where
  kind : t.kind = .whitespace ∨ t.kind = .newline
  text : ∀ c ∈ t.text.toList, isBlank c = true

theorem Blank.of_mem {g : List Char} (hg : ∀ c ∈ g, isBlank c = true) {t : Token}
    (ht : t ∈ blankTokens g) : t.Blank :=
  ⟨(mem_blankTokens hg ht).1, (mem_blankTokens hg ht).2⟩

section blank
variable {t : Token} (h : t.Blank)
include h

theorem Blank.kind_ne : t.kind ≠ .keyword := by
  rcases h.kind with hk | hk <;> simp [hk]

theorem Blank.isKeyword (w : String) : t.isKeyword w = false := by
  simp [Token.isKeyword, h.kind_ne]

theorem Blank.isKeywordIn (ws : List String) : t.isKeywordIn ws = false := by
  simp [Token.isKeywordIn, h.kind_ne]

theorem Blank.isName : t.isName = false := by
  rcases h.kind with hk | hk <;> simp [Token.isName, hk]

theorem Blank.isFiller : t.isFiller = true := by
  simp [Token.isFiller, Token.isBlankText, trimChars_eq_nil_iff.mpr h.text]

theorem Blank.upperText : t.upperText = t.text := by
  simp only [Token.upperText, upper, upperChars_blanks h.text, String.ofList_toList]

/-- A blank token's text, in upper case too, is no text holding a character that is not
blank. -/
theorem Blank.text_ne {x : String} {c : Char} (hc : c ∈ x.toList) (hcb : isBlank c = false) :
    t.text ≠ x ∧ t.upperText ≠ x := by
  rw [h.upperText, and_self]
  rintro rfl
  rw [h.text c hc] at hcb
  cases hcb

end blank

end QueryDiagram.Sql.Token

namespace QueryDiagram.Query

open Sql Text

-- ============================================================ tokens no reader reacts to

/-- A blank token is one no reader reacts to. -/
theorem quiet_of_blankTokens {g : List Char} (hg : ∀ c ∈ g, isBlank c = true) :
    ∀ t ∈ blankTokens g, t.quiet = true := by
  intro t ht
  obtain ⟨hk, hb⟩ := mem_blankTokens hg ht
  have hu : t.upperText = t.text := by
    simp only [Token.upperText, upper, upperChars_blanks hb, String.ofList_toList]
  have hc : t.upperText ∉ Query.clauseWords := by
    rw [hu]
    simpa using contains_blanks hb _ (by simp [clauseWords, IsUpperWord])
  rcases hk with hk | hk <;>
    simp [Token.quiet, Token.continues, Token.groupStart, hk, hc]

/-- An identifier's token is one no reader reacts to. -/
theorem Ident.quiet {w : List Char} (hw : Ident w) : (nameToken w).quiet = true := by
  have hc : (nameToken w).upperText ∉ Query.clauseWords := by
    simp only [clauseWords, List.mem_cons, List.not_mem_nil, or_false, not_or]
    refine ⟨Ident.upper_ne hw ?_, Ident.upper_ne hw ?_, Ident.upper_ne hw ?_,
      Ident.upper_ne hw ?_, Ident.upper_ne hw ?_⟩ <;> decide +kernel
  simp only [nameToken] at hc
  simp [Token.quiet, Token.continues, Token.groupStart, nameToken, hc]

theorem quiet_dot : (⟨.punctuation, "."⟩ : Token).quiet = true := by decide +kernel

theorem quiet_comma : (⟨.punctuation, ","⟩ : Token).quiet = true := by decide +kernel

-- ============================================================ keyword phrases in upper case

section phrase
variable {k : String} {ks : List String} (p : Phrase (k :: ks)) (hk : IsUpperWord k)
include hk

/-- A keyword phrase in upper case is its first word, then nothing or a blank. -/
theorem Phrase.upperText_token (kd : TokenKind) :
    ∃ more, (p.token kd).upperText = String.ofList (k.toList ++ more) ∧ (ks = [] ↔ more = []) ∧
      ∀ b ∈ more.head?, isBlank b = true := by
  obtain ⟨s1, more, hs, hsp, hks, hb⟩ := Written.first p.written
  refine ⟨upperChars more, ?_, ?_, ?_⟩
  · simp only [Token.upperText, Phrase.token, upper, String.toList_ofList, hs, upperChars_append,
      hsp.upperChars_eq hk]
  · cases more with
    | nil => exact hks
    | cons b t =>
      have hbb : isBlank b = true := hb b rfl
      rw [show b :: t = [b] ++ t from rfl, upperChars_append]
      simp [upperChars, upperChar_blank hbb, hks]
  · cases more with
    | nil => simp [upperChars]
    | cons b t =>
      have hbb : isBlank b = true := hb b rfl
      rw [show b :: t = [b] ++ t from rfl, upperChars_append]
      simpa [upperChars, upperChar_blank hbb] using hbb

/-- A keyword phrase is a word of a list, in upper case, exactly when it is one word and that
word is in the list. -/
theorem Phrase.contains_upperText (kd : TokenKind) (ws : List String)
    (hws : ∀ w ∈ ws, IsUpperWord w) : ws.contains (p.token kd).upperText = decide (ks = [] ∧ k ∈ ws) := by
  obtain ⟨more, hu, hks, hb⟩ := p.upperText_token hk kd
  rw [hu]
  by_cases he : ks = []
  · rw [hks.mp he, List.append_nil, String.ofList_toList]
    simp [he]
  · obtain ⟨b, t, rfl⟩ := List.exists_cons_of_ne_nil (mt hks.mpr he)
    simp only [he, false_and, decide_false]
    -- a word of the list holds no blank
    rw [List.contains_eq_mem, decide_eq_false_iff_not]
    intro hm
    have hbw := (hws _ hm).2 b (by simp)
    have := hb b rfl
    rw [isBlank_of_isAlpha (isAlpha_of_isUpper hbw)] at this
    cases this

theorem Phrase.isKeyword_token (w : String) (hw : IsUpperWord w) :
    (p.token .keyword).isKeyword w = decide (ks = [] ∧ k = w) := by
  have h := p.contains_upperText hk .keyword [w] (by simpa using hw)
  simp only [List.contains_cons, List.contains_nil, Bool.or_false, List.mem_singleton] at h
  simp only [Token.isKeyword, h]
  simp [Phrase.token]

theorem Phrase.isKeywordIn_token (ws : List String) (hws : ∀ w ∈ ws, IsUpperWord w) :
    (p.token .keyword).isKeywordIn ws = decide (ks = [] ∧ k ∈ ws) := by
  simp only [Token.isKeywordIn, p.contains_upperText hk .keyword ws hws]
  simp [Phrase.token]

/-- A keyword phrase in upper case starts with a word exactly when its first word does. -/
theorem Phrase.startsWith_upperText (kd : TokenKind) {x : String} (hx : IsUpperWord x) :
    (p.token kd).upperText.startsWith x = decide (x.toList <+: k.toList) := by
  obtain ⟨more, hu, -, hb⟩ := p.upperText_token hk kd
  rw [hu, Bool.eq_iff_iff, String.startsWith_string_iff, String.toList_ofList, decide_eq_true_iff]
  refine ⟨fun h => ?_, fun h => h.trans (List.prefix_append _ _)⟩
  by_contra hn
  -- otherwise `x` is the first word and more, which must start with a blank
  have hkx : k.toList <+: x.toList := by
    rcases le_total x.toList.length k.toList.length with hle | hle
    · exact absurd (List.prefix_of_prefix_length_le h (List.prefix_append _ _) hle) hn
    · exact List.prefix_of_prefix_length_le (List.prefix_append _ _) h hle
  obtain ⟨y, hy⟩ := hkx
  rw [← hy] at h hn
  obtain ⟨z, hz⟩ := (List.prefix_append_right_inj _).mp h
  cases y with
  | nil => exact hn (by simp)
  | cons c t =>
    have hc := hb c (by rw [← hz]; rfl)
    have hcx : c ∈ x.toList := by rw [← hy]; simp
    rw [isBlank_of_isAlpha (isAlpha_of_isUpper (hx.2 c hcx))] at hc
    cases hc

/-- The first word of a keyword phrase, up to a blank, is its first word as spelled; so the
phrase ends a statement only when that word is `GO`. -/
theorem Phrase.continues_token (kd : TokenKind) (hgo : k ≠ "GO") : (p.token kd).continues = true := by
  obtain ⟨s1, more, hs, hsp, -, hb⟩ := Written.first p.written
  have hw : IsWord s1 := hsp.isWord hk
  have hfirst : firstWord (p.token kd).text = String.ofList s1 := by
    have hnb : ∀ c ∈ s1, (!isBlank c) = true := fun c hc => by
      simp [not_isBlank_of_isWordChar (hw.2 c hc)]
    obtain ⟨a, t, hat⟩ := List.exists_cons_of_ne_nil hw.1
    have ha : isBlank a = false := not_isBlank_of_isWordChar (hw.2 a (by simp [hat]))
    have hstop : (more.takeWhile fun c => !isBlank c) = [] := by
      cases more with
      | nil => rfl
      | cons b r => simp [hb b rfl]
    simp only [firstWord, Phrase.token, String.toList_ofList, hs, hat, List.cons_append,
      List.dropWhile_cons_of_neg (by simpa using ha)]
    rw [← List.cons_append, ← hat, List.takeWhile_append_of_pos hnb, hstop, List.append_nil]
  have hne : String.ofList s1 ≠ "GO" := by
    intro h
    have h1 : s1 = ['G', 'O'] := by simpa using congrArg String.toList h
    have h2 : k.toList = ['G', 'O'] := by rw [← hsp, h1]; rfl
    exact hgo (by rw [← String.toList_inj]; simpa using h2)
  -- a text whose first word is a word is not a semicolon either
  have hsemi : (p.token kd).text ≠ ";" := by
    intro h
    rw [h, show firstWord ";" = ";" by decide] at hfirst
    have h1 : s1 = [';'] := by simpa using (congrArg String.toList hfirst).symm
    have := hw.2 ';' (by simp [h1])
    revert this
    decide
  simp [Token.continues, hfirst, hne, hsemi]

/-- A keyword phrase no reader reacts to: its first word is not `GO` and does not start with
`GROUP`, and a phrase of one word is none of the readers' words. -/
theorem Phrase.quiet_token (kd : TokenKind) (hgo : k ≠ "GO") (hg : ¬ "GROUP".toList <+: k.toList)
    (hr : ks = [] → k ∉ Token.readerWords ∧ k ∉ clauseWords) : (p.token kd).quiet = true := by
  have hrw := p.contains_upperText hk kd Token.readerWords (by simp [Token.readerWords, IsUpperWord])
  have hcw := p.contains_upperText hk kd clauseWords (by simp [clauseWords, IsUpperWord])
  have hgs := p.startsWith_upperText hk kd (x := "GROUP") (by simp [IsUpperWord])
  have h1 : decide (ks = [] ∧ k ∈ Token.readerWords) = false :=
    decide_eq_false fun h => (hr h.1).1 h.2
  have h2 : decide (ks = [] ∧ k ∈ clauseWords) = false :=
    decide_eq_false fun h => (hr h.1).2 h.2
  simp only [Token.quiet, Token.groupStart, p.continues_token hk kd hgo, hrw, hcw, hgs, h1, h2,
    decide_eq_false hg, Bool.and_false, Bool.not_false, Bool.and_true]

/-- A keyword phrase starts a `GROUP BY` list for its reader exactly when its first word starts
with `GROUP`. -/
theorem Phrase.groupStart_token :
    (p.token .keyword).groupStart = decide ("GROUP".toList <+: k.toList) := by
  simp only [Token.groupStart, p.startsWith_upperText hk .keyword (x := "GROUP")
    (by simp [IsUpperWord])]
  simp [Phrase.token]

/-- A keyword phrase starts with a letter. -/
theorem Phrase.head_alpha : ∃ c t, p.chars = c :: t ∧ c.isAlpha = true := by
  obtain ⟨s1, more, hs, hsp, -, -⟩ := Written.first p.written
  obtain ⟨c, t, hct⟩ := List.exists_cons_of_ne_nil (hsp.isWord hk).1
  exact ⟨c, t ++ more, by rw [hs, hct, List.cons_append], hsp.isAlpha hk c (by simp [hct])⟩

/-- A keyword phrase is no text that starts with anything but a letter, such as a bracket or a
full stop. -/
theorem Phrase.text_ne (kd : TokenKind) {x : String}
    (hx : ∀ c ∈ x.toList.head?, c.isAlpha = false) : (p.token kd).text ≠ x := by
  obtain ⟨c, t, hct, hc⟩ := p.head_alpha hk
  intro h
  have := hx c (by rw [← h]; simp [Phrase.token, hct])
  rw [hc] at this
  cases this

/-- A keyword phrase is not passed over as filler by the item lists. -/
theorem Phrase.isFiller_token (kd : TokenKind) : (p.token kd).isFiller = false := by
  obtain ⟨c, t, hct, hc⟩ := p.head_alpha hk
  have hcomma : (p.token kd).text ≠ "," := p.text_ne hk kd (by simp)
  have hblank : (p.token kd).isBlankText = false := by
    simp [Token.isBlankText, Phrase.token, hct, trimChars_eq_nil_iff, isBlank_of_isAlpha hc]
  simp [Token.isFiller, hblank, hcomma]

end phrase

theorem Phrase.kind_token {ks : List String} (p : Phrase ks) (kd : TokenKind) :
    (p.token kd).kind = kd := rfl

/-- A keyword of one word reads as that word in upper case. -/
theorem Phrase.upperText_single {k : String} (p : Phrase [k]) (hk : IsUpperWord k) (kd : TokenKind) :
    (p.token kd).upperText = k := by
  simp only [Token.upperText, Phrase.token, upper, String.toList_ofList,
    (Written.spelled_single p.written).upperChars_eq hk, String.ofList_toList]

/-- A join keyword with its kind is one token that no reader reacts to. -/
theorem JoinKind.quiet_keyword {kind : JoinKind} (hk : kind ≠ .plain) (p : Phrase kind.words) :
    (p.token .keyword).quiet = true := by
  obtain ⟨k, ks, hw, hks, hkind⟩ : ∃ k ks, kind.words = k :: ks ∧ ks ≠ [] ∧ k ∈ joinKinds := by
    cases kind <;> simp_all [JoinKind.words, joinKinds]
  have hku : IsUpperWord k := kind.words_upper k (by simp [hw])
  revert p
  rw [hw]
  intro p
  simp only [joinKinds, List.mem_cons, List.not_mem_nil, or_false] at hkind
  refine p.quiet_token hku _ ?_ ?_ (fun h => absurd h hks) <;>
    rcases hkind with rfl | rfl | rfl | rfl <;> decide

-- ============================================================ the tokens of each part

/-- Every token of a clause is its keyword or one no reader reacts to. -/
theorem Clause.mem_tokens {ks : List String} (c : Clause ks) {r : List Char} (hb : Part c.body r) :
    ∀ t ∈ c.tokens, t = c.keyword.token .keyword ∨ t.quiet = true := by
  intro t ht
  simp only [Clause.tokens, List.mem_append, List.mem_cons] at ht
  rcases ht with (hg | rfl | hg) | ht
  · exact Or.inr (quiet_of_blankTokens c.gap.blank t hg)
  · exact Or.inl rfl
  · exact Or.inr (quiet_of_blankTokens c.gap'.blank t hg)
  · exact Or.inr (hb.quiet t ht)

theorem quiet_as (p : Phrase ["AS"]) : (p.token .keyword).quiet = true :=
  p.quiet_token (by simp [IsUpperWord]) _ (by decide) (by decide) (fun _ => by decide)

theorem quiet_on (p : Phrase ["ON"]) : (p.token .keyword).quiet = true :=
  p.quiet_token (by simp [IsUpperWord]) _ (by decide) (by decide) (fun _ => by decide)

theorem Alias.quiet_tokens (a : Alias) : ∀ t ∈ a.tokens, t.quiet = true := by
  intro t ht
  simp only [Alias.tokens, List.mem_append, List.mem_singleton] at ht
  rcases ht with (hg | has) | rfl
  · exact quiet_of_blankTokens a.gap.blank t hg
  · rcases hal : a.as with _ | ⟨p, g⟩
    · simp [hal] at has
    · simp only [hal, Option.map_some, Option.getD_some, List.mem_cons] at has
      rcases has with rfl | hg
      · exact quiet_as p
      · exact quiet_of_blankTokens g.blank t hg
  · exact Ident.quiet a.ident

/-- Every token of a join is its keyword or one no reader reacts to. -/
theorem JoinClause.mem_tokens (j : JoinClause) {r : List Char} (hj : j.Valid r) :
    ∀ t ∈ j.tokens, t = j.keyword.token .keyword ∨ t.quiet = true := by
  intro t ht
  simp only [JoinClause.tokens, List.mem_append, List.mem_cons] at ht
  rcases ht with (((((hg | rfl | hg) | rfl | ha) | hg) | rfl | hg) | hc)
  · exact Or.inr (quiet_of_blankTokens j.gap.blank t hg)
  · exact Or.inl rfl
  · exact Or.inr (quiet_of_blankTokens j.gap1.blank t hg)
  · exact Or.inr (Ident.quiet j.ident)
  · rcases hal : j.tableAlias with _ | a
    · simp [hal] at ha
    · simp only [hal, Option.map_some, Option.getD_some] at ha
      exact Or.inr (a.quiet_tokens t ha)
  · exact Or.inr (quiet_of_blankTokens j.gap2.blank t hg)
  · exact Or.inr (quiet_on j.on)
  · exact Or.inr (quiet_of_blankTokens j.gap3.blank t hg)
  · exact Or.inr (hj.condition.quiet t hc)

theorem ColumnRef.quiet_tokens (c : ColumnRef) : ∀ t ∈ c.tokens, t.quiet = true := by
  intro t ht
  cases c with
  | bare w hw =>
    simp only [ColumnRef.tokens, List.mem_singleton] at ht
    exact ht ▸ Ident.quiet hw
  | qualified w v hw hv =>
    simp only [ColumnRef.tokens, List.mem_cons, List.not_mem_nil, or_false] at ht
    rcases ht with rfl | rfl | rfl
    · exact Ident.quiet hw
    · exact quiet_dot
    · exact Ident.quiet hv

theorem Separator.quiet_tokens (s : Separator) : ∀ t ∈ s.tokens, t.quiet = true := by
  intro t ht
  simp only [Separator.tokens, List.mem_append, List.mem_cons] at ht
  rcases ht with hg | rfl | hg
  · exact quiet_of_blankTokens s.before.blank t hg
  · exact quiet_comma
  · exact quiet_of_blankTokens s.after.blank t hg

/-- The tokens of a `GROUP BY` list after its keyword are ones no reader reacts to. -/
theorem GroupClause.quiet_columns (g : GroupClause) :
    ∀ t ∈ g.first.tokens ++ g.more.flatMap (fun sc => sc.1.tokens ++ sc.2.tokens),
      t.quiet = true := by
  intro t ht
  simp only [List.mem_append, List.mem_flatMap] at ht
  rcases ht with ht | ⟨sc, -, ht | ht⟩
  · exact g.first.quiet_tokens t ht
  · exact sc.1.quiet_tokens t ht
  · exact sc.2.quiet_tokens t ht

/-- Every token of a `GROUP BY` clause is its keyword or one no reader reacts to. -/
theorem GroupClause.mem_tokens (g : GroupClause) :
    ∀ t ∈ g.tokens, t = g.keyword.token .keyword ∨ t.quiet = true := by
  intro t ht
  simp only [GroupClause.tokens, List.mem_append, List.mem_cons] at ht
  rcases ht with ((hg | rfl | hg) | hc) | hc
  · exact Or.inr (quiet_of_blankTokens g.gap.blank t hg)
  · exact Or.inl rfl
  · exact Or.inr (quiet_of_blankTokens g.gap'.blank t hg)
  · exact Or.inr (g.quiet_columns t (List.mem_append_left _ hc))
  · exact Or.inr (g.quiet_columns t (List.mem_append_right _ hc))

theorem Ident.isFiller {w : List Char} (hw : Ident w) : (nameToken w).isFiller = false := by
  obtain ⟨c, hc⟩ := List.exists_mem_of_ne_nil _ hw.word.1
  have hb : ¬ ∀ d ∈ w, isBlank d = true := fun h => by
    have := h c hc
    rw [not_isBlank_of_isWordChar (hw.word.2 c hc)] at this
    cases this
  have hcomma : String.ofList w ≠ "," := fun h => by
    have : w = [','] := by simpa using congrArg String.toList h
    exact absurd (hw.word.2 ',' (by simp [this])) (by decide)
  simp [Token.isFiller, Token.isBlankText, nameToken, trimChars_eq_nil_iff, hb, hcomma]

theorem Ident.text_ne_dot {w : List Char} (hw : Ident w) : (nameToken w).text ≠ "." := by
  intro h
  have : w = ['.'] := by simpa [nameToken] using congrArg String.toList h
  exact absurd (hw.word.2 '.' (by simp [this])) (by decide)

-- ============================================================ the tokens of a query

/-- The tokens of a query before its `FROM`: the `SELECT`, the select list and the blanks around
it. -/
def Select.tokensBeforeFrom (q : Select) : List Token :=
  q.select.token .statement :: blankTokens q.gap1.chars ++ tokenizeFrom none q.items ++
    blankTokens q.gap2.chars

/-- The tokens of a query before its clauses: up to the table after `FROM`, and the join. -/
def Select.tokensBeforeFilter (q : Select) : List Token :=
  q.tokensBeforeFrom ++ q.fromWord.token .keyword :: blankTokens q.gap3.chars ++
    nameToken q.source :: (q.join.map JoinClause.tokens).getD []

theorem Select.tokens_eq_from (q : Select) :
    q.tokens = q.tokensBeforeFrom ++ q.fromWord.token .keyword ::
      (blankTokens q.gap3.chars ++ nameToken q.source :: q.tokensFromJoin) := by
  simp only [Select.tokens, Select.tokensBeforeFrom, List.append_assoc, List.cons_append]

theorem Select.tokens_eq_filter (q : Select) :
    q.tokens = q.tokensBeforeFilter ++ q.tokensFromFilter := by
  simp only [Select.tokens, Select.tokensBeforeFilter, Select.tokensBeforeFrom,
    Select.tokensFromJoin, List.append_assoc, List.cons_append]

theorem quiet_select (p : Phrase ["SELECT"]) : (p.token .statement).quiet = true :=
  p.quiet_token (by simp [IsUpperWord]) _ (by decide) (by decide) (fun _ => by decide)

theorem quiet_orderBy (p : Phrase ["ORDER", "BY"]) : (p.token .keyword).quiet = true :=
  p.quiet_token (by simp [IsUpperWord]) _ (by decide) (by decide) (fun h => by cases h)

/-- No reader reacts to the select list or to what stands around it. -/
theorem Select.quiet_tokensBeforeFrom {q : Select} (hq : q.Valid) :
    ∀ t ∈ q.tokensBeforeFrom, t.quiet = true := by
  intro t ht
  simp only [Select.tokensBeforeFrom, List.cons_append, List.mem_cons, List.mem_append] at ht
  rcases ht with rfl | (hg | hi) | hg
  · exact quiet_select q.select
  · exact quiet_of_blankTokens q.gap1.blank t hg
  · exact hq.items.quiet t hi
  · exact quiet_of_blankTokens q.gap2.blank t hg

-- ============================================================ what holds of every token

/-- A property of every token of an optional part. -/
theorem forall_optional {α : Type} {P : Token → Prop} (o : Option α) (f : α → List Token)
    (h : ∀ a ∈ o, ∀ t ∈ f a, P t) : ∀ t ∈ (o.map f).getD [], P t := by
  intro t ht
  cases o with
  | none => simp at ht
  | some a => exact h a rfl t ht

section frame
variable {P : Token → Prop} (hP : ∀ t, t.quiet = true → P t)
include hP

/-- What holds of the tokens no reader reacts to and of a clause's keyword holds of every token
of the clause. -/
theorem Clause.forall_tokens {ks : List String} (c : Clause ks) {r : List Char} (hb : Part c.body r)
    (hk : P (c.keyword.token .keyword)) : ∀ t ∈ c.tokens, P t :=
  fun t ht => (c.mem_tokens hb t ht).elim (fun e => e ▸ hk) (hP t)

theorem JoinClause.forall_tokens (j : JoinClause) {r : List Char} (hj : j.Valid r)
    (hk : P (j.keyword.token .keyword)) : ∀ t ∈ j.tokens, P t :=
  fun t ht => (j.mem_tokens hj t ht).elim (fun e => e ▸ hk) (hP t)

theorem GroupClause.forall_tokens (g : GroupClause) (hk : P (g.keyword.token .keyword)) :
    ∀ t ∈ g.tokens, P t :=
  fun t ht => (g.mem_tokens t ht).elim (fun e => e ▸ hk) (hP t)

variable {q : Select} (hq : q.Valid)
include hq

theorem Select.forall_tokensFromLimit (hl : ∀ c ∈ q.limit, P (c.keyword.token .keyword)) :
    ∀ t ∈ q.tokensFromLimit, P t :=
  forall_optional _ _ fun c hc => c.forall_tokens hP (hq.limit c hc) (hl c hc)

theorem Select.forall_tokensFromOrder (hl : ∀ c ∈ q.limit, P (c.keyword.token .keyword)) :
    ∀ t ∈ q.tokensFromOrder, P t := by
  simp only [Select.tokensFromOrder, List.forall_mem_append]
  exact ⟨forall_optional _ _ fun c hc =>
      c.forall_tokens hP (hq.order c hc) (hP _ (quiet_orderBy c.keyword)),
    Select.forall_tokensFromLimit hP hq hl⟩

theorem Select.forall_tokensFromHaving (hh : ∀ c ∈ q.having, P (c.keyword.token .keyword))
    (hl : ∀ c ∈ q.limit, P (c.keyword.token .keyword)) : ∀ t ∈ q.tokensFromHaving, P t := by
  simp only [Select.tokensFromHaving, List.forall_mem_append]
  exact ⟨forall_optional _ _ fun c hc => c.forall_tokens hP (hq.having c hc) (hh c hc),
    Select.forall_tokensFromOrder hP hq hl⟩

theorem Select.forall_tokensFromGroup (hg : ∀ g ∈ q.group, P (g.keyword.token .keyword))
    (hh : ∀ c ∈ q.having, P (c.keyword.token .keyword))
    (hl : ∀ c ∈ q.limit, P (c.keyword.token .keyword)) : ∀ t ∈ q.tokensFromGroup, P t := by
  simp only [Select.tokensFromGroup, List.forall_mem_append]
  exact ⟨forall_optional _ _ fun g hg' => g.forall_tokens hP (hg g hg'),
    Select.forall_tokensFromHaving hP hq hh hl⟩

theorem Select.forall_tokensFromFilter (hw : ∀ c ∈ q.filter, P (c.keyword.token .keyword))
    (hg : ∀ g ∈ q.group, P (g.keyword.token .keyword))
    (hh : ∀ c ∈ q.having, P (c.keyword.token .keyword))
    (hl : ∀ c ∈ q.limit, P (c.keyword.token .keyword)) : ∀ t ∈ q.tokensFromFilter, P t := by
  simp only [Select.tokensFromFilter, List.forall_mem_append]
  exact ⟨forall_optional _ _ fun c hc => c.forall_tokens hP (hq.filter c hc) (hw c hc),
    Select.forall_tokensFromGroup hP hq hg hh hl⟩

theorem Select.forall_tokensFromJoin (hj : ∀ j ∈ q.join, P (j.keyword.token .keyword))
    (hw : ∀ c ∈ q.filter, P (c.keyword.token .keyword))
    (hg : ∀ g ∈ q.group, P (g.keyword.token .keyword))
    (hh : ∀ c ∈ q.having, P (c.keyword.token .keyword))
    (hl : ∀ c ∈ q.limit, P (c.keyword.token .keyword)) : ∀ t ∈ q.tokensFromJoin, P t := by
  simp only [Select.tokensFromJoin, List.forall_mem_append]
  exact ⟨forall_optional _ _ fun j hj' => j.forall_tokens hP (hq.join j hj') (hj j hj'),
    Select.forall_tokensFromFilter hP hq hw hg hh hl⟩

/-- What holds of the tokens no reader reacts to, of `FROM` and of the join's keyword holds of
every token before the clauses. -/
theorem Select.forall_tokensBeforeFilter (hf : P (q.fromWord.token .keyword))
    (hj : ∀ j ∈ q.join, P (j.keyword.token .keyword)) : ∀ t ∈ q.tokensBeforeFilter, P t := by
  intro t ht
  simp only [Select.tokensBeforeFilter, List.mem_append, List.mem_cons] at ht
  rcases ht with ((hb | rfl | hg) | rfl | hj') 
  · exact hP t (Select.quiet_tokensBeforeFrom hq t hb)
  · exact hf
  · exact hP t (quiet_of_blankTokens q.gap3.blank t hg)
  · exact hP _ (Ident.quiet q.ident)
  · exact forall_optional _ _ (fun j hj'' => j.forall_tokens hP (hq.join j hj'') (hj j hj'')) t hj'

end frame

-- ============================================================ what follows each part

theorem blankTokens_ne_nil {g : List Char} (h : g ≠ []) : blankTokens g ≠ [] := by
  cases g with
  | nil => exact absurd rfl h
  | cons c rest =>
    rw [blankTokens.eq_def]
    split <;> simp_all

/-- What follows a gap starts with a blank token. -/
theorem Gap.head_tokens (g : Gap) (r : List Token) :
    ∀ u ∈ (blankTokens g.chars ++ r).head?, u.Blank := by
  intro u hu
  rw [List.head?_append_of_ne_nil _ (blankTokens_ne_nil g.ne_nil)] at hu
  exact Token.Blank.of_mem g.blank (List.mem_of_head? hu)

theorem Clause.head_tokens {ks : List String} (c : Clause ks) (r : List Token) :
    ∀ u ∈ (c.tokens ++ r).head?, u.Blank := by
  simpa only [Clause.tokens, List.append_assoc, List.cons_append] using Gap.head_tokens c.gap _

theorem GroupClause.head_tokens (g : GroupClause) (r : List Token) :
    ∀ u ∈ (g.tokens ++ r).head?, u.Blank := by
  simpa only [GroupClause.tokens, List.append_assoc, List.cons_append] using Gap.head_tokens g.gap _

theorem JoinClause.head_tokens (j : JoinClause) (r : List Token) :
    ∀ u ∈ (j.tokens ++ r).head?, u.Blank := by
  simpa only [JoinClause.tokens, List.append_assoc, List.cons_append] using Gap.head_tokens j.gap _

theorem head_tokens_optional {α : Type} (o : Option α) (f : α → List Token)
    (hf : ∀ a r, ∀ u ∈ (f a ++ r).head?, u.Blank) (r : List Token) (hr : ∀ u ∈ r.head?, u.Blank) :
    ∀ u ∈ ((o.map f).getD [] ++ r).head?, u.Blank := by
  cases o with
  | none => simpa using hr
  | some a => exact hf a r

namespace Select

theorem head_tokensFromLimit (q : Select) : ∀ u ∈ q.tokensFromLimit.head?, u.Blank := by
  simpa [tokensFromLimit] using
    head_tokens_optional q.limit Clause.tokens Clause.head_tokens [] (by simp)

theorem head_tokensFromOrder (q : Select) : ∀ u ∈ q.tokensFromOrder.head?, u.Blank :=
  head_tokens_optional q.order Clause.tokens Clause.head_tokens _ q.head_tokensFromLimit

theorem head_tokensFromHaving (q : Select) : ∀ u ∈ q.tokensFromHaving.head?, u.Blank :=
  head_tokens_optional q.having Clause.tokens Clause.head_tokens _ q.head_tokensFromOrder

theorem head_tokensFromGroup (q : Select) : ∀ u ∈ q.tokensFromGroup.head?, u.Blank :=
  head_tokens_optional q.group GroupClause.tokens GroupClause.head_tokens _ q.head_tokensFromHaving

theorem head_tokensFromFilter (q : Select) : ∀ u ∈ q.tokensFromFilter.head?, u.Blank :=
  head_tokens_optional q.filter Clause.tokens Clause.head_tokens _ q.head_tokensFromGroup

theorem head_tokensFromJoin (q : Select) : ∀ u ∈ q.tokensFromJoin.head?, u.Blank :=
  head_tokens_optional q.join JoinClause.tokens JoinClause.head_tokens _ q.head_tokensFromFilter

end Select

-- ============================================================ the keywords of a query

theorem Phrase.isKeyword_single {k : String} (p : Phrase [k]) (hk : IsUpperWord k) (w : String) :
    (p.token .keyword).isKeyword w = (k == w) := by
  simp only [Token.isKeyword, Phrase.kind_token, p.upperText_single hk, beq_self_eq_true,
    Bool.true_and]

theorem Phrase.isKeywordIn_single {k : String} (p : Phrase [k]) (hk : IsUpperWord k)
    (ws : List String) : (p.token .keyword).isKeywordIn ws = ws.contains k := by
  simp only [Token.isKeywordIn, Phrase.kind_token, p.upperText_single hk, beq_self_eq_true,
    Bool.true_and]

namespace JoinKind

variable {kind : JoinKind} (p : Phrase kind.words)

/-- A join keyword is the keyword `JOIN` exactly when it is `JOIN` alone. -/
theorem isKeyword_keyword (w : String) (hw : IsUpperWord w) :
    (p.token .keyword).isKeyword w = decide (kind = .plain ∧ "JOIN" = w) := by
  cases kind <;> refine (Phrase.isKeyword_token p (by simp [IsUpperWord]) w hw).trans ?_ <;> simp

theorem groupStart_keyword : (p.token .keyword).groupStart = false := by
  cases kind <;> refine (Phrase.groupStart_token p (by simp [IsUpperWord])).trans ?_ <;> decide

theorem continues_keyword : (p.token .keyword).continues = true := by
  cases kind <;> exact p.continues_token (by simp [IsUpperWord]) _ (by decide)

/-- No join keyword is a join kind read on its own. -/
theorem isKeywordIn_joinKinds : (p.token .keyword).isKeywordIn joinKinds = false := by
  cases kind <;>
    refine (Phrase.isKeywordIn_token p (by simp [IsUpperWord]) _
      (by simp [joinKinds, IsUpperWord])).trans ?_ <;>
    simp [joinKinds]

end JoinKind

end QueryDiagram.Query
