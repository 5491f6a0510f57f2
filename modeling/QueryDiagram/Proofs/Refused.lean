import QueryDiagram.Proofs.Outcome
import QueryDiagram.Proofs.Query.Keywords

/-!
The constructs that reading refuses, as they are written.

The search for unsupported constructs (`Feature.findIn`) runs over the upper case of the trimmed
query, so a construct is refused whatever the letter case of its keywords and wherever it
stands, in string literals and comments too. What it recognises is narrow, and `Written` lists
it:

* a common table expression `WITH name AS (`, with a single word as the name;
* `UNION SELECT` or `UNION ALL SELECT`, the `SELECT` a whole word;
* a window `OVER (`;
* a subquery right after `FROM`: an opening bracket, then `SELECT` before any closing one;
* a subquery in `WHERE`: the keyword and a blank, then an opening bracket before any `=`,
  then `SELECT` before any closing bracket.

`WITH`, `UNION` and `OVER` are found at the start of a word only. Upper-casing keeps blanks,
brackets and `=` where they stand and moves no other character onto them
(`mem_upperChars_punct`), so the shapes can be read off the query as written.

Other subqueries pass: one in the select list, after a join, after a comma in `FROM` or after
an `=` in `WHERE`, as do `WITH RECURSIVE`, a common table expression with a column list, and a
union with a bracketed right side (`parse_accepts_select_list_subquery`).

Main statement: `parse_refuses_written`.
-/

namespace QueryDiagram

open Text Sql

-- ============================================================ upper case and punctuation

namespace Text

/-- An entry of an association list that `lookup` finds is in the list. -/
theorem mem_of_lookup_eq_some {l : List (Nat × List Nat)} {k : Nat} {v : List Nat}
    (h : l.lookup k = some v) : (k, v) ∈ l := by
  induction l with
  | nil => simp at h
  | cons e l ih =>
    obtain ⟨a, b⟩ := e
    simp only [List.lookup_cons] at h
    split at h
    · cases h
      simp_all
    · exact List.mem_cons_of_mem _ (ih h)

/-- A code point becomes itself as a character, or the null character when it is none. -/
theorem toNat_ofNat_or (n : Nat) : (Char.ofNat n).toNat = n ∨ Char.ofNat n = '\x00' := by
  unfold Char.ofNat
  split
  · left
    simp [Char.ofNatAux]
  · right
    rfl

/-- The characters that upper-casing a character above U+007F gives are the character itself,
letters from `A` on, or the null character standing for no character. -/
theorem upperChar_high {c d : Char} (hc : 0x80 ≤ c.toNat) (hd : d ∈ upperChar c) :
    d = c ∨ d = '\x00' ∨ 0x41 ≤ d.toNat := by
  have hspecial : ∀ e ∈ upperSpecial, ∀ n ∈ e.2, 0x41 ≤ n := by decide +kernel
  have hruns : ∀ r ∈ upperRuns.toList, (0x41 : Int) ≤ r.first + r.offset := by decide +kernel
  simp only [upperChar, show ¬ c.toNat < 0x80 by omega, if_false, caseImage] at hd
  split at hd
  · -- a character with several characters as its upper case
    rename_i ns hns
    obtain ⟨n, hn, rfl⟩ := List.mem_map.mp hd
    have hle := hspecial _ (mem_of_lookup_eq_some hns) n hn
    rcases toNat_ofNat_or n with h | h
    · exact Or.inr (Or.inr (by omega))
    · exact Or.inr (Or.inl h)
  · split at hd
    · -- a character moved by the offset of its run
      rename_i r hr
      have hmem : r ∈ upperRuns.toList := Array.mem_toList_iff.mpr (Array.mem_of_find?_eq_some hr)
      have hcov : r.first ≤ c.toNat := by
        have := Array.find?_some hr
        simp only [CaseRun.covers, Bool.and_eq_true, decide_eq_true_eq] at this
        exact this.1.1
      rw [List.mem_singleton] at hd
      subst hd
      rcases toNat_ofNat_or (Int.toNat (c.toNat + r.offset)) with h | h
      · refine Or.inr (Or.inr ?_)
        have := hruns r hmem
        omega
      · exact Or.inr (Or.inl h)
    · exact Or.inl (List.mem_singleton.mp hd)

/-- Core's upper case moves only the letters `a` to `z`. -/
theorem toUpper_of_not_isAlpha {c : Char} (h : c.isAlpha = false) : c.toUpper = c := by
  unfold Char.toUpper
  rw [dif_neg]
  rintro ⟨h1, h2⟩
  have hl : c.isLower = true := by
    simp only [Char.isLower, Bool.and_eq_true, decide_eq_true_eq]
    exact ⟨h1, h2⟩
  simp [Char.isAlpha, hl] at h

/-- Upper-casing puts an opening or closing bracket or an equals sign exactly where one
stands. -/
theorem mem_upperChar_punct {p c : Char} (hp : p ∈ ['(', ')', '=']) :
    p ∈ upperChar c ↔ c = p := by
  have hpn : p.toNat < 0x41 ∧ p ≠ '\x00' ∧ p.isUpper = false ∧ p.toUpper = p := by
    simp only [List.mem_cons, List.not_mem_nil, or_false] at hp
    rcases hp with rfl | rfl | rfl <;> decide
  by_cases hc : c.toNat < 0x80
  · -- ASCII: core's upper case, which moves letters only
    simp only [upperChar, hc, if_true, List.mem_singleton]
    constructor
    · intro h
      have halpha : c.isAlpha = false := by
        rw [← Char.isUpper_toUpper_eq_isAlpha, ← h, hpn.2.2.1]
      rw [h]
      exact (toUpper_of_not_isAlpha halpha).symm
    · rintro rfl
      exact hpn.2.2.2.symm
  · constructor
    · intro hm
      rcases upperChar_high (by omega) hm with h | h | h
      · exact h.symm
      · exact absurd h hpn.2.1
      · omega
    · rintro rfl
      omega

theorem mem_upperChars_punct {p : Char} (hp : p ∈ ['(', ')', '=']) (cs : List Char) :
    p ∈ upperChars cs ↔ p ∈ cs := by
  simp only [upperChars, List.mem_flatMap, mem_upperChar_punct hp, exists_eq_right]

theorem upperChars_cons (c : Char) (cs : List Char) :
    upperChars (c :: cs) = upperChar c ++ upperChars cs := by
  simp [upperChars]

theorem upperChars_open (cs : List Char) : upperChars ('(' :: cs) = '(' :: upperChars cs := by
  rw [upperChars_cons]
  rfl

-- ============================================================ trimming around a middle

/-- Dropping leading characters stops at a piece that starts with one to keep. -/
theorem dropWhile_append_of_head {p : Char → Bool} {b : List Char} (hb : b ≠ [])
    (hh : ∀ x ∈ b.head?, p x = false) (c : List Char) : (b ++ c).dropWhile p = b ++ c := by
  obtain ⟨x, b', rfl⟩ := List.exists_cons_of_ne_nil hb
  simp [hh x rfl]

theorem dropWhile_around {p : Char → Bool} (a : List Char) {b : List Char} (hb : b ≠ [])
    (hh : ∀ x ∈ b.head?, p x = false) (c : List Char) :
    (a ++ b ++ c).dropWhile p = a.dropWhile p ++ b ++ c := by
  rw [List.append_assoc, List.dropWhile_append]
  split
  · rename_i h
    rw [List.isEmpty_iff.mp h, dropWhile_append_of_head hb hh, List.nil_append]
  · rw [List.append_assoc]

/-- Trimming a text whose middle starts and ends with no blank trims its two ends only. -/
theorem trimChars_around (a : List Char) {b : List Char} (hb : b ≠ [])
    (hh : ∀ x ∈ b.head?, isBlank x = false) (hl : ∀ x ∈ b.getLast?, isBlank x = false)
    (c : List Char) :
    trimChars (a ++ b ++ c) = a.dropWhile isBlank ++ b ++ dropTrailingBlanks c := by
  have hrev : ∀ x ∈ b.reverse.head?, isBlank x = false := by
    simpa [List.head?_reverse] using hl
  have hbr : b.reverse ≠ [] := by simpa using hb
  simp only [trimChars, dropTrailingBlanks, dropWhile_around a hb hh]
  -- from the end, the blanks of `c` go and the last character of `b` stops the drop
  rw [show a.dropWhile isBlank ++ b ++ c = (a.dropWhile isBlank ++ b) ++ c by simp,
    List.reverse_append, List.dropWhile_append]
  split
  · rename_i h
    rw [List.reverse_append, dropWhile_append_of_head hbr hrev, List.isEmpty_iff.mp h]
    simp
  · simp [List.reverse_append]

end Text

-- ============================================================ the written constructs

namespace Feature

/-- A construct the search refuses, as written in a query: its keywords spelled in any letter
case, with the blanks and texts that the search allows between them. -/
inductive Written where
  /-- `WITH name AS (`: blanks around a name whose upper case is one word, and optional blanks
  before the bracket. -/
  | commonTable (kw : List Char) (hkw : Spelled "WITH" kw) (g1 : Gap) (name : List Char)
      (hname : IsWord (upperChars name)) (g2 : Gap) (as : List Char) (has : Spelled "AS" as)
      (g3 : Query.Blanks)
  /-- `UNION SELECT` or `UNION ALL SELECT`, with blanks between the words. -/
  | union (kw : List Char) (hkw : Spelled "UNION" kw) (g : Gap) (all : Option (List Char × Gap))
      (hall : ∀ a ∈ all, Spelled "ALL" a.1) (sel : List Char) (hsel : Spelled "SELECT" sel)
  /-- `OVER (`, with optional blanks before the bracket. -/
  | window (kw : List Char) (hkw : Spelled "OVER" kw) (g : Query.Blanks)
  /-- `FROM (`, then a text with no closing bracket and `SELECT`. -/
  | fromSubquery (kw : List Char) (hkw : Spelled "FROM" kw) (g : Query.Blanks) (x : List Char)
      (hx : ')' ∉ x) (sel : List Char) (hsel : Spelled "SELECT" sel)
  /-- `WHERE` and a blank, a text with no `=`, an opening bracket, a text with no closing
  bracket and `SELECT`. -/
  | whereSubquery (kw : List Char) (hkw : Spelled "WHERE" kw) (b : Char) (hb : isBlank b = true)
      (x : List Char) (hx : '=' ∉ x) (y : List Char) (hy : ')' ∉ y) (sel : List Char)
      (hsel : Spelled "SELECT" sel)

namespace Written

/-- The text of a construct. -/
def chars : Written → List Char
  | .commonTable kw _ g1 name _ g2 as _ g3 =>
    kw ++ g1.chars ++ name ++ g2.chars ++ as ++ g3.chars ++ ['(']
  | .union kw _ g all _ sel _ =>
    kw ++ g.chars ++ (all.map fun (a, g') => a ++ g'.chars).getD [] ++ sel
  | .window kw _ g => kw ++ g.chars ++ ['(']
  | .fromSubquery kw _ g x _ sel _ => kw ++ g.chars ++ '(' :: x ++ sel
  | .whereSubquery kw _ b _ x _ y _ sel _ => kw ++ b :: x ++ '(' :: y ++ sel

/-- The construct the search names for it. -/
def feature : Written → Feature
  | .commonTable .. => .commonTable
  | .union .. => .union
  | .window .. => .window
  | .fromSubquery .. => .fromSubquery
  | .whereSubquery .. => .whereSubquery

/-- Whether the search needs a word to start where the construct starts. -/
def startsWord : Written → Bool
  | .commonTable .. | .union .. | .window .. => true
  | .fromSubquery .. | .whereSubquery .. => false

/-- Whether the search needs a word to end where the construct ends: the `SELECT` of a union
is a whole word. -/
def endsWord : Written → Bool
  | .union .. => true
  | _ => false

end Written

-- ============================================================ reading the shapes

/-- A run of blanks before a character that is not one is what `spanLength` counts. -/
theorem spanLength_blanks {g r : List Char} (hg : ∀ c ∈ g, isBlank c = true)
    (hr : ∀ c ∈ r.head?, isBlank c = false) : spanLength isBlank (g ++ r) = g.length := by
  rw [spanLength_append_of_forall _ hg]
  cases r with
  | nil => rfl
  | cons c r => simp [spanLength, hr c rfl]

theorem dropBlanks_blanks {g r : List Char} (hg : ∀ c ∈ g, isBlank c = true)
    (hr : ∀ c ∈ r.head?, isBlank c = false) : dropBlanks (g ++ r) = r := by
  simp [dropBlanks, spanLength_blanks hg hr]

theorem startsWithWord_append (w : String) (r : List Char) :
    startsWithWord w (w.toList ++ r) = true :=
  (startsWithBy_beq_iff _ _).mpr (List.prefix_append _ _)

theorem wordStart_append {prev : Option Char} (hprev : ∀ d ∈ prev, isWordChar d = false)
    (w : String) (r : List Char) : wordStart w prev (w.toList ++ r) = true := by
  have hp : (prev.map isWordChar).getD false = false := by
    cases prev with
    | none => rfl
    | some d => simpa using hprev d rfl
  simp [wordStart, hp, startsWithWord_append]

/-- `SELECT` stands before the first closing bracket. -/
theorem selectBeforeClose_of_not_mem {x : List Char} (hx : ')' ∉ x) (r : List Char) :
    selectBeforeClose (x ++ "SELECT".toList ++ r) = true := by
  induction x with
  | nil =>
    obtain ⟨c, t, hct⟩ : ∃ c t, "SELECT".toList ++ r = c :: t := ⟨_, _, rfl⟩
    rw [List.nil_append, hct, selectBeforeClose, ← hct, startsWithWord_append, Bool.true_or]
  | cons c x ih =>
    simp only [List.mem_cons, not_or] at hx
    rw [List.cons_append, List.cons_append, selectBeforeClose, ih hx.2]
    simp [Ne.symm hx.1]

/-- An opening bracket before the first `=` is followed by `SELECT` before the next closing
bracket. -/
theorem subqueryBeforeEquals_of_not_mem {x y : List Char} (hx : '=' ∉ x) (hy : ')' ∉ y)
    (r : List Char) :
    subqueryBeforeEquals (x ++ '(' :: (y ++ "SELECT".toList ++ r)) = true := by
  induction x with
  | nil =>
    rw [List.nil_append, subqueryBeforeEquals, selectBeforeClose_of_not_mem hy]
    rfl
  | cons c x ih =>
    simp only [List.mem_cons, not_or] at hx
    rw [List.cons_append, subqueryBeforeEquals, ih hx.2]
    simp [Ne.symm hx.1]

theorem isUpperWord_keyword {k : String}
    (hk : k ∈ ["WITH", "AS", "UNION", "ALL", "SELECT", "OVER", "FROM", "WHERE"]) :
    IsUpperWord k := by
  simp only [List.mem_cons, List.not_mem_nil, or_false] at hk
  rcases hk with rfl | rfl | rfl | rfl | rfl | rfl | rfl | rfl <;> simp [IsUpperWord]

theorem Spelled.head_not_blank {k : String} {s : List Char} (hk : IsUpperWord k) (h : Spelled k s)
    (r : List Char) : ∀ c ∈ (s ++ r).head?, isBlank c = false := by
  obtain ⟨c, t, rfl⟩ := List.exists_cons_of_ne_nil (h.isWord hk).1
  intro d hd
  simp only [List.cons_append, List.head?_cons, Option.mem_def, Option.some.injEq] at hd
  subst hd
  exact isBlank_of_isAlpha (h.isAlpha hk c List.mem_cons_self)

theorem Spelled.last_not_blank {k : String} {s : List Char} (hk : IsUpperWord k) (h : Spelled k s)
    (r : List Char) : ∀ c ∈ (r ++ s).getLast?, isBlank c = false := by
  intro c hc
  rw [List.getLast?_append_of_ne_nil _ (h.isWord hk).1] at hc
  exact isBlank_of_isAlpha (h.isAlpha hk c (List.mem_of_getLast? hc))

theorem last_open_not_blank (r : List Char) :
    ∀ c ∈ (r ++ ['(']).getLast?, isBlank c = false := by
  intro c hc
  simp only [List.getLast?_append, List.getLast?_singleton, Option.some_or,
    Option.mem_def, Option.some.injEq] at hc
  subst hc
  decide

-- ============================================================ each construct is found

namespace Written

-- Each construct's words are upper-cased in place, and its search runs over them word by word.

theorem found_commonTable {kw name as : List Char} (hkw : Spelled "WITH" kw) (g1 : Gap)
    (hname : IsWord (upperChars name)) (g2 : Gap) (has : Spelled "AS" as) (g3 : Query.Blanks)
    {prev : Option Char} (hprev : ∀ d ∈ prev, isWordChar d = false) (post : List Char) :
    commonTableAt prev
      (upperChars ((commonTable kw hkw g1 name hname g2 as has g3).chars ++ post)) = true := by
  have hu : upperChars (chars (.commonTable kw hkw g1 name hname g2 as has g3) ++ post) =
      "WITH".toList ++ (g1.chars ++ (upperChars name ++ (g2.chars ++ ("AS".toList ++
        (g3.chars ++ '(' :: upperChars post))))) := by
    simp only [chars, List.append_assoc, upperChars_append, List.singleton_append,
      upperChars_open, hkw.upperChars_eq (isUpperWord_keyword (by simp)),
      has.upperChars_eq (isUpperWord_keyword (by simp)), upperChars_blanks g1.blank,
      upperChars_blanks g2.blank, upperChars_blanks g3.blank]
  -- the blanks before and after the name are counted up to the name and to `AS`
  have hname_head : ∀ d ∈ (upperChars name ++ (g2.chars ++ ("AS".toList ++
      (g3.chars ++ '(' :: upperChars post)))).head?, isBlank d = false := by
    obtain ⟨d, t, hdt⟩ := List.exists_cons_of_ne_nil hname.1
    intro e he
    rw [hdt, List.cons_append, List.head?_cons, Option.mem_def, Option.some.injEq] at he
    rw [← he]
    exact not_isBlank_of_isWordChar (hname.2 d (hdt ▸ List.mem_cons_self))
  have hspan : spanLength isWordChar (upperChars name ++ (g2.chars ++ ("AS".toList ++
      (g3.chars ++ '(' :: upperChars post)))) = (upperChars name).length := by
    rw [spanLength_append_of_forall _ hname.2]
    obtain ⟨d, t, hdt⟩ := List.exists_cons_of_ne_nil g2.ne_nil
    rw [hdt, List.cons_append]
    simp [spanLength, Query.isWordChar_of_isBlank (g2.blank d (hdt ▸ List.mem_cons_self))]
  have hAS : ∀ d ∈ ("AS".toList ++ (g3.chars ++ '(' :: upperChars post)).head?,
      isBlank d = false := by simp; decide
  have hopen : ∀ d ∈ ('(' :: upperChars post).head?, isBlank d = false := by simp; decide
  simp only [commonTableAt, hu]
  rw [wordStart_append hprev]
  simp only [Bool.true_and, show "WITH".toList.length = 4 from rfl, List.drop_left',
    spanLength_blanks g1.blank hname_head, hspan,
    spanLength_blanks g2.blank hAS, startsWithWord_append,
    show ("AS".toList ++ (g3.chars ++ '(' :: upperChars post)).drop 2 =
      g3.chars ++ '(' :: upperChars post from rfl, dropBlanks_blanks g3.blank hopen]
  simp [List.length_pos_iff, g1.ne_nil, g2.ne_nil, hname.1]

theorem found_union {kw sel : List Char} (hkw : Spelled "UNION" kw) (g : Gap)
    (all : Option (List Char × Gap)) (hall : ∀ a ∈ all, Spelled "ALL" a.1)
    (hsel : Spelled "SELECT" sel) {prev : Option Char}
    (hprev : ∀ d ∈ prev, isWordChar d = false)
    {post : List Char} (hpost : Text.endsWord (upperChars post) = true) :
    unionAt prev (upperChars ((union kw hkw g all hall sel hsel).chars ++ post)) = true := by
  have hselect : ∀ t, t = "SELECT".toList ++ upperChars post →
      (startsWithWord "SELECT" t && Text.endsWord (t.drop 6)) = true := by
    rintro t rfl
    have hdrop : ("SELECT".toList ++ upperChars post).drop 6 = upperChars post :=
      List.drop_left' rfl
    rw [startsWithWord_append, hdrop, hpost]
    rfl
  have hSEL : ∀ d ∈ ("SELECT".toList ++ upperChars post).head?, isBlank d = false := by
    simp; decide
  simp only [unionAt]
  -- `UNION SELECT`, or `UNION ALL SELECT`
  cases all with
  | none =>
    have hu : upperChars (chars (.union kw hkw g none hall sel hsel) ++ post) =
        "UNION".toList ++ (g.chars ++ ("SELECT".toList ++ upperChars post)) := by
      simp only [chars, Option.map_none, Option.getD_none, List.append_nil, List.append_assoc,
        upperChars_append, hkw.upperChars_eq (isUpperWord_keyword (by simp)),
        hsel.upperChars_eq (isUpperWord_keyword (by simp)), upperChars_blanks g.blank]
    rw [hu, wordStart_append hprev]
    simp only [Bool.true_and, show "UNION".toList.length = 5 from rfl, List.drop_left',
      spanLength_blanks g.blank hSEL, hselect _ rfl, Bool.or_true,
      Bool.and_true]
    simpa [List.length_pos_iff] using g.ne_nil
  | some ag =>
    obtain ⟨a, g'⟩ := ag
    have ha : Spelled "ALL" a := hall _ rfl
    have hu : upperChars (chars (.union kw hkw g (some (a, g')) hall sel hsel) ++ post) =
        "UNION".toList ++ (g.chars ++ ("ALL".toList ++ (g'.chars ++
          ("SELECT".toList ++ upperChars post)))) := by
      simp only [chars, Option.map_some, Option.getD_some, List.append_assoc, upperChars_append,
        hkw.upperChars_eq (isUpperWord_keyword (by simp)),
        ha.upperChars_eq (isUpperWord_keyword (by simp)),
        hsel.upperChars_eq (isUpperWord_keyword (by simp)), upperChars_blanks g.blank,
        upperChars_blanks g'.blank]
    have hALL : ∀ d ∈
        ("ALL".toList ++ (g'.chars ++ ("SELECT".toList ++ upperChars post))).head?,
        isBlank d = false := by simp; decide
    rw [hu, wordStart_append hprev]
    simp only [Bool.true_and, show "UNION".toList.length = 5 from rfl, List.drop_left',
      spanLength_blanks g.blank hALL, startsWithWord_append,
      show ("ALL".toList ++ (g'.chars ++ ("SELECT".toList ++ upperChars post))).drop 3 =
        g'.chars ++ ("SELECT".toList ++ upperChars post) from rfl,
      spanLength_blanks g'.blank hSEL, dropBlanks_blanks g'.blank hSEL]
    simp [List.length_pos_iff, g.ne_nil, g'.ne_nil, hpost]

theorem found_window {kw : List Char} (hkw : Spelled "OVER" kw) (g : Query.Blanks)
    {prev : Option Char} (hprev : ∀ d ∈ prev, isWordChar d = false) (post : List Char) :
    windowAt prev (upperChars ((window kw hkw g).chars ++ post)) = true := by
  have hu : upperChars (chars (.window kw hkw g) ++ post) =
      "OVER".toList ++ (g.chars ++ '(' :: upperChars post) := by
    simp only [chars, List.append_assoc, upperChars_append, List.singleton_append,
      upperChars_open, hkw.upperChars_eq (isUpperWord_keyword (by simp)),
      upperChars_blanks g.blank]
  have hopen : ∀ d ∈ ('(' :: upperChars post).head?, isBlank d = false := by simp; decide
  simp only [windowAt, hu]
  rw [wordStart_append hprev]
  simp [dropBlanks_blanks g.blank hopen]

theorem found_fromSubquery {kw x sel : List Char} (hkw : Spelled "FROM" kw) (g : Query.Blanks)
    (hx : ')' ∉ x) (hsel : Spelled "SELECT" sel) (prev : Option Char) (post : List Char) :
    fromSubqueryAt prev (upperChars ((fromSubquery kw hkw g x hx sel hsel).chars ++ post)) =
      true := by
  have hu : upperChars (chars (.fromSubquery kw hkw g x hx sel hsel) ++ post) =
      "FROM".toList ++
        (g.chars ++ '(' :: (upperChars x ++ "SELECT".toList ++ upperChars post)) := by
    simp only [chars, List.append_assoc, upperChars_append, List.cons_append, upperChars_open,
      hkw.upperChars_eq (isUpperWord_keyword (by simp)),
      hsel.upperChars_eq (isUpperWord_keyword (by simp)), upperChars_blanks g.blank]
  have hopen : ∀ d ∈ ('(' :: (upperChars x ++ "SELECT".toList ++ upperChars post)).head?,
      isBlank d = false := by simp; decide
  have hx' : ')' ∉ upperChars x := (mem_upperChars_punct (by simp) x).not.mpr hx
  simp only [fromSubqueryAt, hu, startsWithWord_append, Bool.true_and,
    show "FROM".toList.length = 4 from rfl, List.drop_left', dropBlanks_blanks g.blank hopen]
  exact selectBeforeClose_of_not_mem hx' _

theorem found_whereSubquery {kw x y sel : List Char} (hkw : Spelled "WHERE" kw) {b : Char}
    (hb : isBlank b = true) (hx : '=' ∉ x) (hy : ')' ∉ y) (hsel : Spelled "SELECT" sel)
    (prev : Option Char) (post : List Char) :
    whereSubqueryAt prev
      (upperChars ((whereSubquery kw hkw b hb x hx y hy sel hsel).chars ++ post)) = true := by
  have hu : upperChars (chars (.whereSubquery kw hkw b hb x hx y hy sel hsel) ++ post) =
      "WHERE".toList ++ b :: (upperChars x ++ '(' ::
        (upperChars y ++ "SELECT".toList ++ upperChars post)) := by
    simp only [chars, List.append_assoc, upperChars_append, List.cons_append, upperChars_open,
      upperChars_cons b, upperChar_blank hb, hkw.upperChars_eq (isUpperWord_keyword (by simp)),
      hsel.upperChars_eq (isUpperWord_keyword (by simp)), List.nil_append]
  have hx' : '=' ∉ upperChars x := (mem_upperChars_punct (by simp) x).not.mpr hx
  have hy' : ')' ∉ upperChars y := (mem_upperChars_punct (by simp) y).not.mpr hy
  simp only [whereSubqueryAt, hu, startsWithWord_append, Bool.true_and,
    show "WHERE".toList.length = 5 from rfl, List.drop_left', hb]
  exact subqueryBeforeEquals_of_not_mem hx' hy' _

/-- The upper case of a construct and what follows it holds the construct's words in upper
case, and the search finds the construct there, given the word boundaries it needs. -/
theorem found (c : Written) {prev : Option Char} (post : List Char)
    (hprev : c.startsWord = true → ∀ d ∈ prev, isWordChar d = false)
    (hpost : c.endsWord = true → Text.endsWord (upperChars post) = true) :
    c.feature.pattern prev (upperChars (c.chars ++ post)) = true := by
  cases c with
  | commonTable kw hkw g1 name hname g2 as has g3 =>
    exact found_commonTable hkw g1 hname g2 has g3 (hprev rfl) post
  | union kw hkw g all hall sel hsel =>
    exact found_union hkw g all hall hsel (hprev rfl) (hpost rfl)
  | window kw hkw g => exact found_window hkw g (hprev rfl) post
  | fromSubquery kw hkw g x hx sel hsel => exact found_fromSubquery hkw g hx hsel prev post
  | whereSubquery kw hkw b hb x hx y hy sel hsel =>
    exact found_whereSubquery hkw hb hx hy hsel prev post

/-- A construct starts with its first keyword. -/
theorem chars_eq_keyword (c : Written) :
    ∃ k kw r, IsUpperWord k ∧ Spelled k kw ∧ c.chars = kw ++ r := by
  cases c with
  | commonTable kw hkw | union kw hkw | window kw hkw | fromSubquery kw hkw
  | whereSubquery kw hkw =>
    exact ⟨_, kw, _, isUpperWord_keyword (by simp), hkw,
      by simp only [chars, List.append_assoc]; exact rfl⟩

theorem head_not_blank (c : Written) : ∀ x ∈ c.chars.head?, isBlank x = false := by
  obtain ⟨k, kw, r, hk, hkw, hc⟩ := c.chars_eq_keyword
  rw [hc]
  exact Spelled.head_not_blank hk hkw r

theorem chars_ne_nil (c : Written) : c.chars ≠ [] := by
  obtain ⟨k, kw, r, hk, hkw, hc⟩ := c.chars_eq_keyword
  rw [hc]
  exact List.append_ne_nil_of_left_ne_nil (hkw.isWord hk).1 r

/-- A construct ends with an opening bracket or the last letter of `SELECT`. -/
theorem last_not_blank (c : Written) : ∀ x ∈ c.chars.getLast?, isBlank x = false := by
  cases c with
  | commonTable => exact last_open_not_blank _
  | union _ _ _ _ _ _ hsel =>
    exact Spelled.last_not_blank (isUpperWord_keyword (by simp)) hsel _
  | window => exact last_open_not_blank _
  | fromSubquery kw hkw g x hx sel hsel =>
    rw [show (fromSubquery kw hkw g x hx sel hsel).chars = (kw ++ g.chars ++ '(' :: x) ++ sel by
      simp [chars]]
    exact Spelled.last_not_blank (isUpperWord_keyword (by simp)) hsel _
  | whereSubquery kw hkw b hb x hx y hy sel hsel =>
    rw [show (whereSubquery kw hkw b hb x hx y hy sel hsel).chars =
        (kw ++ b :: x ++ '(' :: y) ++ sel by simp [chars]]
    exact Spelled.last_not_blank (isUpperWord_keyword (by simp)) hsel _

end Written

-- ============================================================ finding a construct

/-- Scanning `a ++ b` reaches the position where `b` starts after the last character of `a`. -/
theorem charBefore_append (a b : List Char) : charBefore none (a ++ b) a.length = a.getLast? := by
  simp [charBefore]

/-- A construct that occurs is reported: the search names one. -/
theorem findIn_isSome_of_occursIn {f : Feature} {cs : List Char} (h : f.OccursIn cs) :
    ∃ g, findIn cs = some g := by
  rw [occursIn_iff] at h
  cases hf : findIn cs with
  | some g => exact ⟨g, rfl⟩
  | none =>
    -- every test fails, among them the one of `f`
    simp only [findIn, Option.map_eq_none_iff, List.find?_eq_none] at hf
    cases f <;> simp_all [tests, pattern]

end Feature

-- ============================================================ reading refuses

namespace Query

open Feature

/-- Upper case ends the same as the text it is taken of, when the text's end is kept. -/
theorem getLast?_upperChars_dropWhile (p : Char → Bool) (cs : List Char) :
    ∀ x ∈ (upperChars (cs.dropWhile p)).getLast?, x ∈ (upperChars cs).getLast? := by
  intro x hx
  obtain ⟨pre, hpre⟩ := List.dropWhile_suffix p (l := cs)
  have hne : upperChars (cs.dropWhile p) ≠ [] := by
    rintro h
    rw [h] at hx
    cases hx
  rw [← hpre, upperChars_append, List.getLast?_append_of_ne_nil _ hne]
  exact hx

/-- Upper case starts the same as the text it is taken of, when the text's start is kept. -/
theorem head?_upperChars_dropTrailingBlanks (cs : List Char) :
    ∀ x ∈ (upperChars (dropTrailingBlanks cs)).head?, x ∈ (upperChars cs).head? := by
  intro x hx
  have hpre : dropTrailingBlanks cs <+: cs := by
    rw [dropTrailingBlanks, ← List.reverse_suffix, List.reverse_reverse]
    exact List.dropWhile_suffix _
  obtain ⟨post, hpost⟩ := hpre
  have hne : upperChars (dropTrailingBlanks cs) ≠ [] := by
    rintro h
    rw [h] at hx
    cases hx
  rw [← hpost, upperChars_append, List.head?_append_of_ne_nil _ hne]
  exact hx

theorem endsWord_iff (cs : List Char) :
    Text.endsWord cs = true ↔ ∀ d ∈ cs.head?, isWordChar d = false := by
  cases cs with
  | nil => simp [Text.endsWord]
  | cons c cs => simp [Text.endsWord]

/-- Wherever it stands in a query, a construct of `Written` makes reading refuse the query as
unsupported, given the word boundaries the search needs around it: a word starts where a
common table expression, a union or a window starts, and a word ends after the `SELECT` of a
union. -/
theorem parse_refuses_written (pre post : List Char) (c : Written)
    (hpre : c.startsWord = true → ∀ d ∈ (upperChars pre).getLast?, isWordChar d = false)
    (hpost : c.endsWord = true → ∀ d ∈ (upperChars post).head?, isWordChar d = false) :
    ∃ f, parse (String.ofList (pre ++ c.chars ++ post)) = .error (.unsupported f) := by
  have htrim : (trim (String.ofList (pre ++ c.chars ++ post))).toList =
      pre.dropWhile isBlank ++ c.chars ++ dropTrailingBlanks post := by
    simp only [trim, String.toList_ofList,
      trimChars_around pre c.chars_ne_nil c.head_not_blank c.last_not_blank post]
  -- the construct is found where it stands in the trimmed text
  have hocc : c.feature.OccursIn (upperChars (pre.dropWhile isBlank ++ c.chars ++
      dropTrailingBlanks post)) := by
    refine ⟨(upperChars (pre.dropWhile isBlank)).length, by simp [upperChars_append], ?_⟩
    rw [List.append_assoc, upperChars_append, charBefore_append, List.drop_left]
    refine c.found _ (fun hs d hd => hpre hs d (getLast?_upperChars_dropWhile _ _ d hd)) ?_
    intro he
    rw [endsWord_iff]
    exact fun d hd => hpost he d (head?_upperChars_dropTrailingBlanks _ d hd)
  obtain ⟨f, hf⟩ := findIn_isSome_of_occursIn hocc
  refine ⟨f, (parse_eq_unsupported_iff _ f).mpr ⟨?_, ?_⟩⟩
  · intro h
    have := congrArg String.toList h
    rw [htrim, String.toList_empty] at this
    exact c.chars_ne_nil (List.append_eq_nil_iff.mp (List.append_eq_nil_iff.mp this).1).2
  · rw [htrim]
    exact (findIn_eq_some_iff _ f).mp hf

/-- The union of the test suite, `SELECT * FROM users UNION SELECT * FROM orders`: a word ends
before `UNION`, and one ends after `SELECT`, so reading refuses it. -/
theorem parse_refuses_union_select :
    (∀ d ∈ (upperChars "SELECT * FROM users ".toList).getLast?, isWordChar d = false) ∧
    (∀ d ∈ (upperChars " * FROM orders".toList).head?, isWordChar d = false) ∧
    ∃ f, parse (String.ofList ("SELECT * FROM users ".toList ++
      (Written.union "UNION".toList (by simp [Spelled]) ⟨[' '], by simp, by simp [isBlank]⟩ none
        (by simp) "SELECT".toList (by simp [Spelled])).chars ++ " * FROM orders".toList)) =
      .error (.unsupported f) := by
  have hpre :
      ∀ d ∈ (upperChars "SELECT * FROM users ".toList).getLast?, isWordChar d = false := by
    rw [show (upperChars "SELECT * FROM users ".toList).getLast? = some ' ' by decide +kernel]
    simp [isWordChar]
  have hpost : ∀ d ∈ (upperChars " * FROM orders".toList).head?, isWordChar d = false := by
    rw [show (upperChars " * FROM orders".toList).head? = some ' ' by decide +kernel]
    simp [isWordChar]
  exact ⟨hpre, hpost, parse_refuses_written _ _ _ (fun _ => hpre) (fun _ => hpost)⟩

/-- A subquery in the select list is no construct the search looks for: the query is read. -/
theorem parse_accepts_select_list_subquery :
    ∃ q, parse "SELECT (SELECT 1) FROM t" = .ok q := by
  have hnone : findIn (upperChars (trim "SELECT (SELECT 1) FROM t").toList) = none := by decide
  refine parse_ok_of_none _ (by decide) fun f hf => ?_
  obtain ⟨g, hg⟩ := findIn_isSome_of_occursIn hf
  rw [hnone] at hg
  cases hg

end Query

end QueryDiagram
