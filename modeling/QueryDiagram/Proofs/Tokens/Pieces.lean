import QueryDiagram.Proofs.Tokens.Words

/-!
Reading a text piece by piece.

The scan reads a token, then goes on after it with the token's last character as the one
before; so a text whose pieces each end at a token boundary is read piece by piece. After a
blank the scan goes on as at the start of a text (`tokenizeFrom_blank_prev`): no rule that
looks back tells a blank from nothing. A run of blanks is read one blank at a time, a carriage
return and a line feed together as one line break (`tokenizeFrom_blanks_append`); a keyword as
written is one token; an identifier is one name token wherever a word may end after it
(`Ident.readToken`).
-/

namespace QueryDiagram.Sql

open Text

-- ============================================================ one step of the scan

theorem lastChar_eq (c : Char) (cs : List Char) :
    lastChar c cs = (c :: cs).getLast (List.cons_ne_nil c cs) := by
  induction cs generalizing c with
  | nil => rfl
  | cons d ds ih => rw [lastChar, ih, List.getLast_cons_cons]

/-- Where a token covers exactly the piece `p`, the scan goes on after `p`. -/
theorem tokenizeFrom_of_readToken {prev : Option Char} {p r : List Char} {k : TokenKind}
    (hp : p ≠ []) (h : readToken prev (p ++ r) = (k, p.length)) :
    tokenizeFrom prev (p ++ r) = ⟨k, String.ofList p⟩ :: tokenizeFrom p.getLast? r := by
  obtain ⟨c, cs, rfl⟩ := List.exists_cons_of_ne_nil hp
  rw [List.cons_append] at h ⊢
  rw [tokenizeFrom, h]
  have htake : (cs ++ r).take ((c :: cs).length - 1) = cs := by simp
  have hdrop : (cs ++ r).drop ((c :: cs).length - 1) = r := by simp
  simp only [htake, hdrop, lastChar_eq, List.getLast?_eq_some_getLast (List.cons_ne_nil c cs)]

-- ============================================================ the character before

/-- A blank is none of the characters that a rule looks back for. -/
theorem blank_ne {b : Char} (hb : isBlank b = true) :
    isWordChar b = false ∧ b ≠ '"' ∧ b ≠ '$' ∧ b ≠ ']' ∧ b ≠ ')' ∧ b ≠ '.' := by
  refine ⟨?_, ?_, ?_, ?_, ?_, ?_⟩
  · cases hw : isWordChar b with
    | false => rfl
    | true => rw [not_isBlank_of_isWordChar hw] at hb; cases hb
  all_goals rintro rfl; revert hb; decide

/-- After a blank, a token is read as at the start of a text. -/
theorem readToken_blank_prev {b : Char} (hb : isBlank b = true) (cs : List Char) :
    readToken (some b) cs = readToken none cs := by
  obtain ⟨hw, h1, h2, h3, h4, h5⟩ := blank_ne hb
  have e1 : dollarQuotedRule (some b) cs = dollarQuotedRule none cs := by
    simp [dollarQuotedRule, hw, h1, h2]
  have e2 : markerRule (some b) cs = markerRule none cs := by simp [markerRule, hw]
  have e3 : memberRule (some b) cs = memberRule none cs := by simp [memberRule, h5]
  have e4 : bracketNameRule (some b) cs = bracketNameRule none cs := by
    simp [bracketNameRule, hw, h3, h4]
  simp only [readToken, rules, List.findSome?_cons, e1, e2, e3, e4]
  rfl

/-- After a blank, a text is read as from its start. -/
theorem tokenizeFrom_blank_prev {b : Char} (hb : isBlank b = true) (cs : List Char) :
    tokenizeFrom (some b) cs = tokenizeFrom none cs := by
  cases cs with
  | nil => simp [tokenizeFrom]
  | cons c cs => rw [tokenizeFrom, tokenizeFrom, readToken_blank_prev hb]

/-- The character before what follows `p ++ q`. -/
theorem getLast?_append_or (p q : List Char) (prev : Option Char) :
    (p ++ q).getLast?.or prev = q.getLast?.or (p.getLast?.or prev) := by
  rw [List.getLast?_append, Option.or_assoc]

-- ============================================================ blanks

/-- A run of one or more blanks. -/
structure Gap where
  chars : List Char
  ne_nil : chars ≠ []
  blank : ∀ c ∈ chars, isBlank c = true

/-- A run of blanks before a character that is not one: its length is the run. -/
theorem Gap.spanLength_append (g : Gap) {r : List Char} (hr : ∀ d ∈ r.head?, isBlank d = false) :
    spanLength isBlank (g.chars ++ r) = g.chars.length := by
  rw [spanLength_append_of_forall _ g.blank]
  cases r with
  | nil => rfl
  | cons d t => simp [spanLength, hr d rfl]

/-- No word character starts a run of blanks. -/
theorem Gap.spanLength_word (g : Gap) (r : List Char) :
    spanLength isWordChar (g.chars ++ r) = 0 := by
  obtain ⟨c, t, hct⟩ := List.exists_cons_of_ne_nil g.ne_nil
  have hc : isWordChar c = false := by
    cases hw : isWordChar c with
    | false => rfl
    | true =>
      have := g.blank c (by simp [hct])
      rw [not_isBlank_of_isWordChar hw] at this
      cases this
  simp [hct, spanLength, hc]

/-- A word is no blank at its head. -/
theorem IsWord.head_not_blank {w : List Char} (hw : IsWord w) (r : List Char) :
    ∀ d ∈ (w ++ r).head?, isBlank d = false := by
  obtain ⟨c, t, rfl⟩ := List.exists_cons_of_ne_nil hw.1
  intro d hd
  cases hd
  exact not_isBlank_of_isWordChar (hw.2 c List.mem_cons_self)

/-- The tokens of a run of blanks: a carriage return and a line feed together make one line
break, a carriage return or a line feed alone one, any other blank one whitespace token. -/
def blankTokens : List Char → List Token
  | [] => []
  | '\r' :: '\n' :: rest => ⟨.newline, String.ofList ['\r', '\n']⟩ :: blankTokens rest
  | c :: rest =>
    ⟨if c = '\r' ∨ c = '\n' then .newline else .whitespace, String.ofList [c]⟩ :: blankTokens rest

/-- The token at a blank. -/
theorem readToken_blank {c : Char} (hc : isBlank c = true) (prev : Option Char)
    (more : List Char) :
    readToken prev (c :: more) =
      if c = '\r' ∧ more.head? = some '\n' then (.newline, 2)
      else if c = '\r' ∨ c = '\n' then (.newline, 1) else (.whitespace, 1) := by
  have h1 : c ≠ '-' ∧ c ≠ '#' ∧ c ≠ '/' := by
    refine ⟨?_, ?_, ?_⟩ <;> rintro rfl <;> revert hc <;> decide
  have e1 : lineCommentRule prev (c :: more) = none := by simp [lineCommentRule, h1.1, h1.2.1]
  have e2 : blockCommentRule prev (c :: more) = none := by simp [blockCommentRule, h1.2.2]
  have e4 : blankRule prev (c :: more) = some (.whitespace, 1) := by simp [blankRule, hc]
  simp only [readToken, rules, List.findSome?_cons, e1, e2]
  by_cases hr : c = '\r'
  · subst hr
    cases more with
    | nil => simp [newlineRule]
    | cons d more =>
      by_cases hd : d = '\n'
      · subst hd
        simp [newlineRule]
      · simp [newlineRule, hd]
  · by_cases hn : c = '\n'
    · subst hn
      simp [newlineRule]
    · have e3 : newlineRule prev (c :: more) = none := by simp [newlineRule, hr, hn]
      simp [e3, e4, hr, hn]

/-- A run of blanks is read one blank at a time, or a line break at a time, as long as no line
feed follows it. -/
theorem tokenizeFrom_blanks_append {g rest : List Char} (hg : ∀ c ∈ g, isBlank c = true)
    (hrest : rest.head? ≠ some '\n') (prev : Option Char) :
    tokenizeFrom prev (g ++ rest) = blankTokens g ++ tokenizeFrom (g.getLast?.or prev) rest := by
  induction g using blankTokens.induct generalizing prev with
  | case1 => simp [blankTokens]
  | case2 more ih =>
    have hmore : ∀ c ∈ more, isBlank c = true := fun c hc => hg c (by simp [hc])
    have hread : readToken prev (['\r', '\n'] ++ (more ++ rest)) = (.newline, 2) := by
      rw [show ['\r', '\n'] ++ (more ++ rest) = '\r' :: '\n' :: (more ++ rest) from rfl,
        readToken_blank (by decide)]
      simp
    rw [show '\r' :: '\n' :: more ++ rest = ['\r', '\n'] ++ (more ++ rest) from rfl,
      tokenizeFrom_of_readToken (by simp) hread, ih hmore, blankTokens,
      show '\r' :: '\n' :: more = ['\r', '\n'] ++ more from rfl, getLast?_append_or]
    rfl
  | case3 c more hnot ih =>
    have hc : isBlank c = true := hg c List.mem_cons_self
    have hmore : ∀ c ∈ more, isBlank c = true := fun d hd => hg d (List.mem_cons_of_mem c hd)
    -- no line feed follows a carriage return here, inside the run or after it
    have hpair : ¬ (c = '\r' ∧ (more ++ rest).head? = some '\n') := by
      rintro ⟨rfl, hh⟩
      cases more with
      | nil => exact hrest hh
      | cons d more =>
        simp only [List.cons_append, List.head?_cons, Option.some.injEq] at hh
        subst hh
        exact hnot more rfl rfl
    have hread : readToken prev ([c] ++ (more ++ rest)) =
        (if c = '\r' ∨ c = '\n' then .newline else .whitespace, 1) := by
      rw [show [c] ++ (more ++ rest) = c :: (more ++ rest) from rfl, readToken_blank hc,
        if_neg hpair]
      split <;> rfl
    rw [show c :: more ++ rest = [c] ++ (more ++ rest) from rfl,
      tokenizeFrom_of_readToken (by simp) hread, ih hmore, blankTokens,
      show c :: more = [c] ++ more from rfl, getLast?_append_or]
    · rfl
    · exact hnot

/-- Each token of a run of blanks is a whitespace or a line break, and covers blanks only. -/
theorem mem_blankTokens {g : List Char} (hg : ∀ c ∈ g, isBlank c = true) {t : Token}
    (ht : t ∈ blankTokens g) :
    (t.kind = .whitespace ∨ t.kind = .newline) ∧ ∀ c ∈ t.text.toList, isBlank c = true := by
  induction g using blankTokens.induct with
  | case1 => simp [blankTokens] at ht
  | case2 more ih =>
    rw [blankTokens] at ht
    rcases List.mem_cons.mp ht with rfl | ht
    · refine ⟨Or.inr rfl, ?_⟩
      simp only [String.toList_ofList, List.mem_cons, List.not_mem_nil, or_false]
      rintro c (rfl | rfl) <;> rfl
    · exact ih (fun c hc => hg c (by simp [hc])) ht
  | case3 c more hnot ih =>
    rw [blankTokens] at ht
    · rcases List.mem_cons.mp ht with rfl | ht
      · refine ⟨by split <;> simp, ?_⟩
        simpa using hg c List.mem_cons_self
      · exact ih (fun d hd => hg d (List.mem_cons_of_mem c hd)) ht
    · exact hnot

theorem Gap.getLast_blank (g : Gap) : ∃ b, g.chars.getLast? = some b ∧ isBlank b = true := by
  obtain ⟨b, hb⟩ := Option.isSome_iff_exists.mp (List.getLast?_isSome.mpr g.ne_nil)
  exact ⟨b, hb, g.blank b (List.mem_of_getLast? hb)⟩

theorem Gap.head_blank (g : Gap) (r : List Char) : ∀ d ∈ (g.chars ++ r).head?, isBlank d = true := by
  intro d hd
  rw [List.head?_append_of_ne_nil _ g.ne_nil] at hd
  exact g.blank d (List.mem_of_head? hd)

/-- After a gap, the scan starts afresh at what follows. -/
theorem Gap.tokenizeFrom_append (g : Gap) (prev : Option Char) {rest : List Char}
    (hrest : ∀ c ∈ rest.head?, isBlank c = false) :
    tokenizeFrom prev (g.chars ++ rest) = blankTokens g.chars ++ tokenizeFrom none rest := by
  have hn : rest.head? ≠ some '\n' := fun h => by
    have := hrest '\n' h
    revert this
    decide
  obtain ⟨b, hb, hbb⟩ := g.getLast_blank
  rw [tokenizeFrom_blanks_append g.blank hn prev, hb, Option.some_or, tokenizeFrom_blank_prev hbb]

theorem Written.chars_ne_nil {ks : List String} {s : List Char} (h : Written ks s)
    (hks : ∀ w ∈ ks, IsUpperWord w) : s ≠ [] := by
  obtain ⟨c, t, rfl, -⟩ := h.exists_cons hks
  exact List.cons_ne_nil c t

-- ============================================================ identifiers

/-- An identifier: a word that does not start with a digit, starts no keyword phrase and is no
word of the tables. The lexer reads it as one name wherever a word may end after it
(`Ident.readToken`). -/
structure Ident (w : List Char) : Prop where
  word : IsWord w
  notDigit : ∀ c ∈ w.head?, isDecimalDigit c = false
  plain : ∀ x ∈ specialWords, FoldsTo x w = false
  name : classifyWord (String.ofList w) = .name

/-- An identifier is read as one name token, whatever comes before it. -/
theorem Ident.readToken {w : List Char} (hw : Ident w) (prev : Option Char) {rest : List Char}
    (hr : stopsWord rest = true) : Sql.readToken prev (w ++ rest) = (.name, w.length) := by
  have hd : isDecimalDigit (w.head hw.word.1) = false :=
    hw.notDigit _ (List.head?_eq_some_head hw.word.1)
  rw [readToken_plain hw.word hd hr hw.plain, hw.name]
  split <;> rfl

/-- An identifier reads as one name token and the scan goes on after it. -/
theorem Ident.tokenizeFrom {w : List Char} (hw : Ident w) (prev : Option Char) {rest : List Char}
    (hr : stopsWord rest = true) :
    Sql.tokenizeFrom prev (w ++ rest) = ⟨.name, String.ofList w⟩ :: Sql.tokenizeFrom w.getLast? rest :=
  tokenizeFrom_of_readToken hw.word.1 (hw.readToken prev hr)

/-- An identifier does not read as a word of the tables: its upper case is no such word. -/
theorem Ident.upper_ne {w : List Char} (hw : Ident w) {x : String} (hx : classifyUpper x ≠ .name) :
    upper (String.ofList w) ≠ x := by
  intro h
  apply hx
  rw [← h]
  exact hw.name

end QueryDiagram.Sql
