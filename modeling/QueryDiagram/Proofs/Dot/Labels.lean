import Mathlib.Data.List.TakeWhile
import QueryDiagram.Diagram.Dot

/-!
How Graphviz reads the labels of a diagram's DOT text.

A label is written as a DOT identifier by `quote`. Graphviz reads a quoted identifier by the
lexical rules of DOT (`readQuoted`): `\"` stands for a quote, `\\` for the two backslashes, a
backslash before a line feed joins two lines, and any other character stands for itself. A bare
identifier stands for itself, less a line feed that ends it. Graphviz then shows a label's text
by its escape rules (`shownText`): `\n`, `\l` and `\r` end a line, shown here as a line feed like
a line feed itself; a backslash before any other character shows that character, and a lone
backslash at the end shows nothing. `\G`, `\N`, `\E`, `\H`, `\T` and `\L` name objects of the
graph and are left unread here, as is an identifier in angle brackets, which is an HTML-like
label shown as markup (`shownLabel`).

Main statements. Node labels are escaped before they are quoted, and Graphviz shows each
escaped label written in quotes as the label itself (`shownLabel_escapeLabel`); a node's label
holds a separator line, so it is written in quotes unless it is HTML-like (`shownLabel_node`).
Edge labels are quoted as they are: the `\n` between kind and condition ends the first line, as
meant, and a kind and a condition with no backslash are shown as written (`shownLabel_edge`).
A backslash in a condition is read as an escape, so the condition `x\y` is shown as `xy`; a
node label that starts with `<` and ends with `>` is read as markup; and an edge end with a
colon names a port, so an edge from the table `a:b` is written from the node `a`, while the
table's node is declared as `"a:b"` (`dot_misreads_labels_and_ends`).
-/

namespace QueryDiagram.Dot

-- ============================================================ reading

/-- The characters that, after a backslash, name an object of the graph in a label. -/
def objectEscapes : List Char := ['G', 'N', 'E', 'H', 'T', 'L']

/-- Reads the rest of a double-quoted DOT string: the text it stands for and what follows the
closing quote. -/
def readQuoted : List Char → Option (List Char × List Char)
  | [] => none
  | '"' :: rest => some ([], rest)
  | '\\' :: '"' :: rest => (readQuoted rest).map fun r => ('"' :: r.1, r.2)
  | '\\' :: '\\' :: rest => (readQuoted rest).map fun r => ('\\' :: '\\' :: r.1, r.2)
  | '\\' :: '\n' :: rest => readQuoted rest
  | c :: rest => (readQuoted rest).map fun r => (c :: r.1, r.2)

/-- The text Graphviz shows for a label's text, with line ends as line feeds. -/
def shownText : List Char → Option (List Char)
  | [] => some []
  | ['\\'] => some []
  | '\\' :: c :: rest =>
    if c ∈ objectEscapes then none
    else (shownText rest).map ((if c ∈ ['n', 'l', 'r'] then '\n' else c) :: ·)
  | c :: rest => (shownText rest).map (c :: ·)

/-- The text Graphviz shows for a label written by `quote`: `none` when the label is HTML-like,
names an object, or its quoted form does not read as one identifier. -/
def shownLabel (s : String) : Option (List Char) :=
  match (quote s).toList with
  | '"' :: rest =>
    match readQuoted rest with
    | some (text, []) => shownText text
    | _ => none
  | cs =>
    if isHtml cs then none
    else shownText (if cs.getLast? = some '\n' then cs.dropLast else cs)

-- ============================================================ escaped labels

/-- What the DOT lexer reads back from an escaped label: the label with its backslashes still
doubled. -/
def doubleBackslashes (cs : List Char) : List Char :=
  cs.flatMap fun c => if c = '\\' then ['\\', '\\'] else [c]

/-- In an escaped label every quote follows an odd run of backslashes, so quoting adds
nothing. -/
theorem escapeQuotes_escaped (cs : List Char) {run : Nat} (h : run % 2 = 0) :
    escapeQuotes run (cs.flatMap escapeLabelChar) = cs.flatMap escapeLabelChar := by
  induction cs generalizing run with
  | nil => rfl
  | cons c cs ih =>
    by_cases h₁ : c = '\\'
    · subst c
      have h2 : (run + 1 + 1) % 2 = 0 := by omega
      simp [escapeLabelChar, escapeQuotes, ih h2]
    by_cases h₂ : c = '"'
    · subst c
      have h1 : (run + 1) % 2 ≠ 0 := by omega
      simp [escapeLabelChar, escapeQuotes, h1, ih (rfl : 0 % 2 = 0)]
    · simp [escapeLabelChar, escapeQuotes, h₁, h₂, ih (rfl : 0 % 2 = 0)]

theorem readQuoted_escaped (cs rest : List Char) :
    readQuoted (cs.flatMap escapeLabelChar ++ '"' :: rest) = some (doubleBackslashes cs, rest) := by
  induction cs with
  | nil => rfl
  | cons c cs ih =>
    simp only [doubleBackslashes, List.flatMap_cons, List.append_assoc] at *
    by_cases h₁ : c = '\\'
    · subst c
      simp [escapeLabelChar, readQuoted, ih]
    by_cases h₂ : c = '"'
    · subst c
      simp [escapeLabelChar, readQuoted, ih]
    · simp [escapeLabelChar, h₁, h₂, readQuoted, ih]

theorem shownText_doubleBackslashes (cs : List Char) :
    shownText (doubleBackslashes cs) = some cs := by
  induction cs with
  | nil => rfl
  | cons c cs ih =>
    simp only [doubleBackslashes, List.flatMap_cons] at *
    by_cases h : c = '\\'
    · subst c
      simp [shownText, objectEscapes, ih]
    · simp [h, shownText, ih]

/-- An escaped label written in quotes is shown as the label itself. -/
theorem shownLabel_escapeLabel (l : String) (hq : standsBare (escapeLabel l) = false) :
    shownLabel (escapeLabel l) = some l.toList := by
  have hesc : (escapeLabel l).toList = l.toList.flatMap escapeLabelChar := by
    simp [escapeLabel]
  have hquote : (quote (escapeLabel l)).toList =
      '"' :: (l.toList.flatMap escapeLabelChar ++ ['"']) := by
    simp [quote, hq, hesc, escapeQuotes_escaped _ (rfl : 0 % 2 = 0)]
  simp only [shownLabel, hquote, readQuoted_escaped]
  exact shownText_doubleBackslashes _

-- ============================================================ node labels

/-- A character that a bare identifier or numeral may hold. -/
def bareChar (c : Char) : Bool :=
  c.isAlphanum || isDigitChar c || c == '_' || c == '.' || c == '-' || c == '\n'

theorem bareChar_of_atEnd {r : List Char} (h : atEnd r = true) :
    ∀ c ∈ r, bareChar c = true := by
  unfold atEnd at h
  split at h <;> simp_all [bareChar]

/-- Each character of a text is in the part a test takes from its front, or after it. -/
theorem mem_takeWhile_or_drop {p : Char → Bool} {cs : List Char} {x : Char} (hx : x ∈ cs) :
    p x = true ∨ x ∈ cs.drop (cs.takeWhile p).length := by
  rw [← List.take_append_drop (cs.takeWhile p).length cs] at hx
  rcases List.mem_append.1 hx with hx | hx
  · rw [← List.prefix_iff_eq_take.1 (List.takeWhile_prefix p)] at hx
    exact .inl (List.mem_takeWhile_imp hx)
  · exact .inr hx

theorem bareChar_of_isIdentifier {cs : List Char} (h : isIdentifier cs = true) :
    ∀ c ∈ cs, bareChar c = true := by
  cases cs with
  | nil => simp [isIdentifier] at h
  | cons c cs =>
    simp only [isIdentifier, Bool.and_eq_true] at h
    intro x hx
    rcases List.mem_cons.1 hx with rfl | hx
    · simp only [Bool.or_eq_true, beq_iff_eq] at h
      rcases h.1 with ha | hu
      · simp [bareChar, Char.isAlphanum, ha]
      · simp [bareChar, hu]
    · rw [← List.takeWhile_append_dropWhile (p := fun d => d.isAlphanum || d == '_') (l := cs)]
        at hx
      rcases List.mem_append.1 hx with hx | hx
      · have hp := List.mem_takeWhile_imp hx
        simp only [Bool.or_eq_true, beq_iff_eq] at hp
        rcases hp with ha | hu
        · simp [bareChar, ha]
        · simp [bareChar, hu]
      · exact bareChar_of_atEnd h.2 x hx

theorem bareChar_of_isUnsignedNumeral {cs : List Char} (h : isUnsignedNumeral cs = true) :
    ∀ c ∈ cs, bareChar c = true := by
  have hdigit : ∀ c, isDigitChar c = true → bareChar c = true := fun c hc => by
    simp [bareChar, hc]
  intro x hx
  unfold isUnsignedNumeral at h
  split at h
  · -- a point, then digits
    simp only [Bool.and_eq_true] at h
    rcases List.mem_cons.1 hx with rfl | hx
    · rfl
    · rcases mem_takeWhile_or_drop (p := isDigitChar) hx with hd | hd
      · exact hdigit x hd
      · exact bareChar_of_atEnd h.2 x hd
  · -- digits, then a point and digits or nothing more
    simp only [Bool.and_eq_true] at h
    obtain ⟨-, hm⟩ := h
    rcases mem_takeWhile_or_drop (p := isDigitChar) hx with hd | hd
    · exact hdigit x hd
    split at hm
    · rename_i rest heq
      rw [heq] at hd
      rcases List.mem_cons.1 hd with rfl | hd
      · rfl
      · rw [← List.takeWhile_append_dropWhile (p := isDigitChar) (l := rest)] at hd
        rcases List.mem_append.1 hd with hd | hd
        · exact hdigit x (List.mem_takeWhile_imp hd)
        · exact bareChar_of_atEnd hm x hd
    · exact bareChar_of_atEnd hm x hd

theorem bareChar_of_isNumeral {cs : List Char} (h : isNumeral cs = true) :
    ∀ c ∈ cs, bareChar c = true := by
  unfold isNumeral at h
  split at h
  · intro x hx
    rcases List.mem_cons.1 hx with rfl | hx
    · rfl
    · exact bareChar_of_isUnsignedNumeral h x hx
  · exact bareChar_of_isUnsignedNumeral h

/-- A text with a character no bare identifier or numeral holds stands bare only when it is
HTML-like. -/
theorem standsBare_eq_isHtml {s : String} {c : Char} (hc : c ∈ s.toList)
    (hb : bareChar c = false) : standsBare s = isHtml s.toList := by
  have hid : isIdentifier s.toList = false := by
    cases hi : isIdentifier s.toList
    · rfl
    · simp [bareChar_of_isIdentifier hi c hc] at hb
  have hnum : isNumeral s.toList = false := by
    cases hn : isNumeral s.toList
    · rfl
    · simp [bareChar_of_isNumeral hn c hc] at hb
  simp [standsBare, hid, hnum]

/-- A node's label holds the separator line. -/
theorem separator_mem_label {μ : Type} [Mark μ] (n : TableNode μ) :
    '─' ∈ n.label.toList := by
  have hsep : ∀ l : List String, '─' ∈ ("\n".intercalate (labelSeparator :: l)).toList := by
    intro l
    cases l with
    | nil => simp [labelSeparator]
    | cons b l =>
      rw [String.intercalate_cons_cons]
      simp [labelSeparator]
  simp only [TableNode.label, List.cons_append]
  rw [String.intercalate_cons_cons, String.toList_append]
  exact List.mem_append_right _ (hsep _)

/-- A node's label is shown as it is, unless it is HTML-like: it holds a separator line, so it
is never a bare identifier or numeral, and is written in quotes. -/
theorem shownLabel_node {μ : Type} [Mark μ] (n : TableNode μ)
    (h : isHtml (escapeLabel n.label).toList = false) :
    shownLabel (escapeLabel n.label) = some n.label.toList := by
  have hmem : '─' ∈ (escapeLabel n.label).toList := by
    simp only [escapeLabel, String.toList_ofList, List.mem_flatMap]
    exact ⟨'─', separator_mem_label n, by decide⟩
  apply shownLabel_escapeLabel
  rw [standsBare_eq_isHtml hmem (by decide), h]

-- ============================================================ edge labels

/-- A character with a backslash put before a quote: how `quote` writes text that has no
backslash. -/
def escapeQuoteChar (c : Char) : List Char := if c = '"' then ['\\', '"'] else [c]

theorem escapeQuotes_plain_append {cs : List Char} (h : '\\' ∉ cs) (rest : List Char) :
    escapeQuotes 0 (cs ++ rest) = cs.flatMap escapeQuoteChar ++ escapeQuotes 0 rest := by
  induction cs with
  | nil => rfl
  | cons c cs ih =>
    simp only [List.mem_cons, not_or] at h
    by_cases hq : c = '"'
    · subst c
      simp [escapeQuoteChar, escapeQuotes, ih h.2]
    · simp [escapeQuoteChar, escapeQuotes, hq, Ne.symm h.1, ih h.2]

theorem readQuoted_plain_append {cs : List Char} (h : '\\' ∉ cs) (rest : List Char) :
    readQuoted (cs.flatMap escapeQuoteChar ++ rest) =
      (readQuoted rest).map fun r => (cs ++ r.1, r.2) := by
  induction cs with
  | nil => simp
  | cons c cs ih =>
    simp only [List.mem_cons, not_or] at h
    by_cases hq : c = '"'
    · subst c
      simp [escapeQuoteChar, readQuoted, ih h.2, Function.comp_def]
    · simp [escapeQuoteChar, hq, Ne.symm h.1, readQuoted, ih h.2, Function.comp_def]

theorem shownText_plain_append {cs : List Char} (h : '\\' ∉ cs) (rest : List Char) :
    shownText (cs ++ rest) = (shownText rest).map (cs ++ ·) := by
  induction cs with
  | nil => simp
  | cons c cs ih =>
    simp only [List.mem_cons, not_or] at h
    simp [shownText, Ne.symm h.1, ih h.2, Function.comp_def]

theorem shownText_plain {cs : List Char} (h : '\\' ∉ cs) : shownText cs = some cs := by
  simpa [shownText] using shownText_plain_append h []

theorem not_mem_kindLabel {kind : String} (h : '\\' ∉ kind.toList) :
    '\\' ∉ (kindLabel kind).toList := by
  unfold kindLabel
  split <;> simp [h]

theorem not_mem_shorten {n : Nat} {s : String} (h : '\\' ∉ s.toList) :
    '\\' ∉ (shorten n s).toList := by
  unfold shorten
  split
  · simp only [String.toList_append, String.toList_ofList, List.mem_append, not_or]
    exact ⟨fun hm => h (List.mem_of_mem_take hm), by decide⟩
  · exact h

/-- Quoting and reading back text with no backslash gives the text. -/
theorem readQuoted_quote_plain {cs : List Char} (h : '\\' ∉ cs) :
    readQuoted (escapeQuotes 0 cs ++ ['"']) = some (cs, []) := by
  have hesc : escapeQuotes 0 cs = cs.flatMap escapeQuoteChar := by
    simpa [escapeQuotes] using escapeQuotes_plain_append h []
  rw [hesc, readQuoted_plain_append h]
  simp [readQuoted]

/-- An edge label written in quotes, whose kind and condition have no backslash, is shown as
the kind, a line end, and the condition cut to thirty characters. -/
theorem shownLabel_edge (e : JoinEdge) (hk : '\\' ∉ e.kind.toList)
    (hc : '\\' ∉ e.condition.toList) (hq : standsBare e.label = false) :
    shownLabel e.label =
      some (kindLabel e.kind ++
        (if e.condition.isEmpty then "" else "\n" ++ shorten 30 e.condition)).toList := by
  have hK := not_mem_kindLabel hk
  have hC := not_mem_shorten (n := 30) hc
  have hquote : (quote e.label).toList = '"' :: (escapeQuotes 0 e.label.toList ++ ['"']) := by
    simp [quote, hq]
  simp only [shownLabel, hquote]
  by_cases he : e.condition.isEmpty
  · -- the label is the kind alone
    have hl : e.label.toList = (kindLabel e.kind).toList := by simp [JoinEdge.label, he]
    rw [hl, readQuoted_quote_plain hK]
    simpa [he] using shownText_plain hK
  · -- the kind, a backslash and `n`, then the condition
    have hl : e.label.toList =
        (kindLabel e.kind).toList ++ '\\' :: 'n' :: (shorten 30 e.condition).toList := by
      simp [JoinEdge.label, he]
    have hesc : escapeQuotes 0 e.label.toList =
        (kindLabel e.kind).toList.flatMap escapeQuoteChar ++
          '\\' :: 'n' :: escapeQuotes 0 (shorten 30 e.condition).toList := by
      rw [hl, escapeQuotes_plain_append hK]
      simp [escapeQuotes]
    have hread : readQuoted (escapeQuotes 0 e.label.toList ++ ['"']) =
        some ((kindLabel e.kind).toList ++ '\\' :: 'n' :: (shorten 30 e.condition).toList, []) := by
      rw [hesc, List.append_assoc, readQuoted_plain_append hK]
      simp [readQuoted, readQuoted_quote_plain hC]
    rw [hread]
    simp [he, shownText_plain_append hK, shownText, objectEscapes, shownText_plain hC]

/-- The condition `x\y` is shown as `xy`; the label of a table `<t` that shows a column `c>`
is HTML-like and is read as markup; and the table `a:b` is declared as the node `"a:b"` while
its edges are written from the node `a` at port `b`. -/
theorem dot_misreads_labels_and_ends :
    shownLabel (JoinEdge.label ⟨"a", "b", "INNER", "x\\y"⟩) = some "INNER JOIN\nxy".toList ∧
      shownLabel (escapeLabel (TableNode.label (⟨"<t", ["c>"], [], false⟩ : TableNode Bool))) =
        none ∧
      quote "a:b" = "\"a:b\"" ∧ quoteEnd "a:b" = "a:b" := by
  decide +kernel

end QueryDiagram.Dot
