import QueryDiagram.Proofs.Joins.Search
import QueryDiagram.Proofs.Query.Shape

/-!
The joins the text search finds in a query of the readers' shape.

The search passes over every piece of such a query but the join: the keyword phrases, the
identifiers, the commas and full stops of the `GROUP BY` list, the blanks between them and the
free texts, none of which holds a word `JOIN`, start no join (`NoJoinIn`). At the join it finds
one join exactly when no alias is written: after the table and blanks the search wants `ON`,
and an alias stands there instead (`Alias.joinTail_eq_none`). The join found is of the kind
written right before `JOIN`, which is none for `JOIN` alone and `OUTER` for the outer joins, so
that both are reported as inner joins (`JoinKind.reported`). Its table and condition are those
written, since the condition runs to the clause after it (`conditionLength_of_clause`).

Main statement: `Select.joinsInText_chars`.
-/

namespace QueryDiagram.Query

open Sql Text
open Feature (charBefore)

-- ============================================================ small facts

/-- A phrase of one word is the word as spelled. -/
theorem Written.spelled_single {k : String} {s : List Char} (h : Written [k] s) : Spelled k s := by
  cases h with
  | single hs => exact hs
  | cons _ _ _ hw => exact absurd rfl hw.ne_nil

/-- A phrase of more than one word is its first word, blanks, and the phrase of the others. -/
theorem Written.split {k k' : String} {ks : List String} {s : List Char}
    (h : Written (k :: k' :: ks) s) :
    ∃ (s1 : List Char) (g : Gap) (more : List Char),
      s = s1 ++ (g.chars ++ more) ∧ Spelled k s1 ∧ Written (k' :: ks) more := by
  cases h with
  | cons hs hg hgb hw => exact ⟨_, ⟨_, hg, hgb⟩, _, by rw [List.append_assoc], hs, hw⟩

/-- A spelling of one keyword does not read as another. -/
theorem foldsTo_spelled_ne {k x : String} {s : List Char} (hs : Spelled k s) (hk : IsUpperWord k)
    (hx : IsUpperWord x) (hne : x ≠ k) : FoldsTo x s = false := by
  rw [hs.foldsTo hk, foldsTo_upper_eq hx hk]
  exact decide_eq_false hne

/-- An identifier is no join kind. -/
theorem Ident.kindless {w : List Char} (hw : Ident w) : ∀ kd ∈ joinKinds, FoldsTo kd w = false :=
  fun kd hkd => hw.plain kd (by
    simp only [joinKinds, List.mem_cons, List.not_mem_nil, or_false] at hkd
    rcases hkd with rfl | rfl | rfl | rfl <;> simp [specialWords])

theorem Ident.not_join {w : List Char} (hw : Ident w) : FoldsTo "JOIN" w = false :=
  hw.plain "JOIN" (by simp [specialWords])

/-- A text with no blank at either end is kept by trimming. -/
theorem trim_ofList_of_ends {p : List Char} (hh : ∀ c ∈ p.head?, isBlank c = false)
    (hl : ∀ c ∈ p.getLast?, isBlank c = false) : trim (String.ofList p) = String.ofList p := by
  have hfront : p.dropWhile isBlank = p := by
    cases p with
    | nil => rfl
    | cons c t => rw [List.dropWhile_cons_of_neg (by simp [hh c rfl])]
  have hback : p.reverse.dropWhile isBlank = p.reverse := by
    cases hes : p.reverse with
    | nil => rfl
    | cons e es =>
      have he : isBlank e = false := hl e (by rw [← List.head?_reverse, hes]; rfl)
      rw [List.dropWhile_cons_of_neg (by simp [he])]
  simp only [trim, trimChars, dropTrailingBlanks, String.toList_ofList, hfront, hback,
    List.reverse_reverse]

/-- A free text has no blank at either end, so trimming keeps it. -/
theorem Part.trim_ofList {p rest : List Char} (hp : Part p rest) :
    trim (String.ofList p) = String.ofList p :=
  trim_ofList_of_ends (fun c hc => (hp.head c hc).1) hp.last

/-- An identifier holds no blank, so trimming keeps it. -/
theorem Ident.trim_ofList {w : List Char} (hw : Ident w) : trim (String.ofList w) = String.ofList w :=
  trim_ofList_of_ends (fun c hc => not_isBlank_of_isWordChar (hw.word.2 c (List.mem_of_head? hc)))
    (fun c hc => not_isBlank_of_isWordChar (hw.word.2 c (List.mem_of_getLast? hc)))

-- ============================================================ pieces that start no join

/-- Nothing leads to a `JOIN` in an empty text. -/
theorem not_joinAhead_nil : ¬ JoinAhead [] := by
  rintro ⟨b, -, -, hj, -⟩
  rw [List.drop_nil] at hj
  exact absurd hj (by decide)

/-- A run of blanks, possibly empty, after which no tail of a join is found starts no join. -/
theorem noJoinIn_blanks {g rest : List Char} (hg : ∀ c ∈ g, isBlank c = true)
    (hq : joinTail (g ++ rest) = none) : NoJoinIn g rest :=
  fun prev _ hi => joinAt_blanks hg hq prev hi

/-- A character that is neither a blank nor a word character starts no join. -/
theorem noJoinIn_mark {c : Char} (hb : isBlank c = false) (hw : isWordChar c = false)
    (rest : List Char) : NoJoinIn [c] rest := by
  intro prev i hi
  obtain rfl : i = 0 := by simpa using hi
  cases h : joinAt (charBefore prev [c] 0) (([c] ++ rest).drop 0) with
  | none => rfl
  | some x =>
    obtain ⟨-, k, hk, y, hy⟩ := joinAt_eq_some h
    rcases hk with rfl | ⟨kd, hkd, hs, rfl⟩
    · -- the tail of a join starts with a blank
      exact absurd (joinAhead_of_joinTail hy) (not_joinAhead_cons rest hb)
    · rw [List.drop_zero, List.singleton_append, startsWithFold_kind_cons hkd _ hw] at hs
      cases hs

/-- Blanks, possibly none, before a word other than `JOIN` lead to no join. -/
theorem not_joinAhead_blanks_word {g w rest : List Char} (hg : ∀ c ∈ g, isBlank c = true)
    (hw : IsWord w) (hj : FoldsTo "JOIN" w = false) (hr : stopsWord rest = true) :
    ¬ JoinAhead (g ++ (w ++ rest)) := by
  cases g with
  | nil =>
    obtain ⟨c, t, rfl⟩ := List.exists_cons_of_ne_nil hw.1
    exact not_joinAhead_cons _ (not_isBlank_of_isWordChar (hw.2 c List.mem_cons_self))
  | cons b bs => exact not_joinAhead_gap_word ⟨b :: bs, List.cons_ne_nil b bs, hg⟩ hw hj hr

/-- Blanks, possibly none, before a character outside words lead to no join. -/
theorem not_joinAhead_blanks_mark {g rest : List Char} {c : Char} (hg : ∀ d ∈ g, isBlank d = true)
    (hb : isBlank c = false) (hw : isWordChar c = false) : ¬ JoinAhead (g ++ c :: rest) := by
  cases g with
  | nil => exact not_joinAhead_cons rest hb
  | cons b bs =>
    intro h
    obtain ⟨hjoin, -⟩ := joinAhead_gap ⟨b :: bs, List.cons_ne_nil b bs, hg⟩
      (fun d hd => by rw [List.head?_cons, Option.mem_some_iff] at hd; exact hd ▸ hb) h
    rw [startsWithFold_alpha_cons (by simp) (by simp) rest hw] at hjoin
    cases hjoin

theorem not_joinAhead_optional {α : Type} (o : Option α) (f : α → List Char)
    (hf : ∀ a r, ¬ JoinAhead (f a ++ r)) {r : List Char} (hr : ¬ JoinAhead r) :
    ¬ JoinAhead ((o.map f).getD [] ++ r) := by
  cases o with
  | none => exact hr
  | some a => exact hf a r

theorem noJoinIn_optional {α : Type} (o : Option α) (f : α → List Char) {r : List Char}
    (hf : ∀ a ∈ o, NoJoinIn (f a) r) : NoJoinIn ((o.map f).getD []) r := by
  cases o with
  | none => exact noJoinIn_nil r
  | some a => exact hf a rfl

/-- A spelling of a word that is no join kind reads as none. -/
theorem spelled_kindless {k : String} {s : List Char} (hs : Spelled k s) (hk : IsUpperWord k)
    (hnk : k ∉ joinKinds) : ∀ kd ∈ joinKinds, FoldsTo kd s = false :=
  fun kd hkd => foldsTo_spelled_ne hs hk (joinKinds_upper kd hkd) (fun e => hnk (e ▸ hkd))

theorem NoJoinIn.append_nil {p q : List Char} (hp : NoJoinIn p q) (hq : NoJoinIn q []) :
    NoJoinIn (p ++ q) [] :=
  NoJoinIn.append (by rwa [List.append_nil]) hq

-- ============================================================ the clauses after the join

/-- A phrase is its first word, spelled, and a rest that starts with a blank, or is empty when
the phrase is one word. -/
theorem Written.first {k : String} {ks : List String} {s : List Char} (h : Written (k :: ks) s) :
    ∃ s1 more, s = s1 ++ more ∧ Spelled k s1 ∧ (ks = [] ↔ more = []) ∧
      ∀ c ∈ more.head?, isBlank c = true := by
  cases h with
  | single hs => exact ⟨_, [], by rw [List.append_nil], hs, by simp, by simp⟩
  | cons hs hg hgb hw =>
    refine ⟨_, _, List.append_assoc _ _ _, hs, ?_, ?_⟩
    · simp [hw.ne_nil, hg]
    · rw [List.head?_append_of_ne_nil _ hg]
      exact fun c hc => hgb c (List.mem_of_head? hc)

/-- Blanks and a keyword phrase whose first word is a clause word end a join condition. -/
theorem clauseAhead_written (g : Gap) {k : String} {ks : List String} {s r : List Char}
    (h : Written (k :: ks) s) (hk : IsUpperWord k) (hkc : k ∈ clauseWords)
    (hr : ∀ c ∈ r.head?, isBlank c = true) : clauseAhead (g.chars ++ (s ++ r)) = true := by
  obtain ⟨s1, more, rfl, hs, -, hmore⟩ := Written.first h
  have hw := hs.isWord hk
  have hlen : s1.length = k.length := hs.length_eq
  have hhead : ∀ d ∈ (s1 ++ more ++ r).head?, isBlank d = false := by
    rw [List.append_assoc]
    exact IsWord.head_not_blank hw _
  -- after the clause word comes a blank, or the end of the text
  have hend : endsWord (more ++ r) = true := by
    cases more with
    | nil =>
      cases r with
      | nil => rfl
      | cons c t => exact endsWord_of_head? rfl (hr c rfl)
    | cons c t => exact endsWord_of_head? rfl (hmore c rfl)
  have hpos : 0 < g.chars.length := List.length_pos_of_ne_nil g.ne_nil
  unfold clauseAhead
  rw [g.spanLength_append hhead, Bool.and_eq_true, decide_eq_true_eq, List.any_eq_true]
  refine ⟨hpos, k, hkc, ?_⟩
  rw [List.drop_left, ← List.drop_drop, List.drop_left, List.append_assoc,
    hs.startsWithFold_append hk, ← hlen, List.drop_left]
  exact Bool.and_eq_true_iff.mpr ⟨rfl, hend⟩

theorem clauseAhead_optional {α : Type} (o : Option α) (f : α → List Char)
    (hf : ∀ a r, clauseAhead (f a ++ r) = true) {r : List Char} (hr : r = [] ∨ clauseAhead r = true) :
    (o.map f).getD [] ++ r = [] ∨ clauseAhead ((o.map f).getD [] ++ r) = true := by
  cases o with
  | none => exact hr
  | some a => exact Or.inr (hf a r)

/-- A clause whose keyword phrase starts with a clause word ends a join condition before it. -/
theorem Clause.clauseAhead {k : String} {ks : List String} (c : Clause (k :: ks))
    (hk : IsUpperWord k) (hkc : k ∈ clauseWords) (r : List Char) :
    Query.clauseAhead (c.chars ++ r) = true := by
  simp only [Clause.chars, List.append_assoc]
  exact clauseAhead_written c.gap c.keyword.written hk hkc (c.gap'.head_blank _)

theorem GroupClause.clauseAhead (g : GroupClause) (r : List Char) :
    Query.clauseAhead (g.chars ++ r) = true := by
  simp only [GroupClause.chars, List.append_assoc]
  exact clauseAhead_written g.gap g.keyword.written (by simp [IsUpperWord]) (by decide)
    (g.gap'.head_blank _)

/-- A clause whose keyword phrase starts with a word other than `JOIN` leads to no join. -/
theorem Clause.not_joinAhead {k : String} {ks : List String} (c : Clause (k :: ks))
    (hk : IsUpperWord k) (hj : k ≠ "JOIN") (r : List Char) : ¬ JoinAhead (c.chars ++ r) := by
  simp only [Clause.chars, List.append_assoc]
  exact not_joinAhead_gap_written c.gap c.keyword.written hk hj
    (stopsWord_of_head_blank (c.gap'.head_blank _))

theorem GroupClause.not_joinAhead (g : GroupClause) (r : List Char) :
    ¬ JoinAhead (g.chars ++ r) := by
  simp only [GroupClause.chars, List.append_assoc]
  exact not_joinAhead_gap_written g.gap g.keyword.written (by simp [IsUpperWord]) (by decide)
    (stopsWord_of_head_blank (g.gap'.head_blank _))

/-- A clause starts no join, where its keyword phrase holds no join kind and no `JOIN`, and what
follows its text starts with a blank and leads to no join. -/
theorem Clause.noJoinIn {ks : List String} (c : Clause ks) (hks : ∀ w ∈ ks, IsUpperWord w)
    (hkind : ∀ k ∈ ks, k ∉ joinKinds) (hjoin : "JOIN" ∉ ks) {rest : List Char}
    (hp : Part c.body rest) (hhead : ∀ d ∈ rest.head?, isBlank d = true)
    (hq : ¬ JoinAhead rest) : NoJoinIn c.chars rest := by
  obtain ⟨k, ks', hks'⟩ := List.exists_cons_of_ne_nil c.keyword.written.ne_nil
  subst hks'
  have hr : stopsWord (c.gap'.chars ++ (c.body ++ rest)) = true :=
    stopsWord_of_head_blank (c.gap'.head_blank _)
  have h1 : NoJoinIn c.gap.chars (c.keyword.chars ++ (c.gap'.chars ++ (c.body ++ rest))) :=
    noJoinIn_gap c.gap (joinTail_eq_none (not_joinAhead_gap_written c.gap c.keyword.written
      (hks k List.mem_cons_self) (fun e => hjoin (e ▸ List.mem_cons_self)) hr))
  have h2 : NoJoinIn c.keyword.chars (c.gap'.chars ++ (c.body ++ rest)) :=
    Written.noJoinIn c.keyword.written hks hkind (fun h => hjoin (List.mem_cons_of_mem k h)) hr
  have h3 : NoJoinIn c.gap'.chars (c.body ++ rest) :=
    noJoinIn_gap c.gap' (joinTail_eq_none (not_joinAhead_gap_part c.gap'
      (fun d hd => (hp.head d hd).1) hp.ne_nil hp.noJoin (stopsWord_of_head_blank hhead)))
  exact ((h1.append h2).append h3).append (noJoinIn_part hp.last hp.noJoin hhead hq)

-- ============================================================ the `GROUP BY` list

/-- A column starts no join, where a word may end after it. -/
theorem ColumnRef.noJoinIn (c : ColumnRef) {r : List Char} (hr : stopsWord r = true) :
    NoJoinIn c.chars r := by
  cases c with
  | bare w hw => exact noJoinIn_word hw.word (kindless (Ident.kindless hw)) hr
  | qualified t w ht hw =>
    have h1 : NoJoinIn t (['.'] ++ (w ++ r)) := noJoinIn_word ht.word (kindless (Ident.kindless ht)) rfl
    have h2 : NoJoinIn ['.'] (w ++ r) := noJoinIn_mark (by decide) (by decide) _
    rw [ColumnRef.chars, show t ++ '.' :: w = t ++ ['.'] ++ w by simp]
    exact (h1.append h2).append (noJoinIn_word hw.word (kindless (Ident.kindless hw)) hr)

/-- Blanks, possibly none, before a column lead to no join. -/
theorem ColumnRef.not_joinAhead (c : ColumnRef) {g r : List Char} (hg : ∀ d ∈ g, isBlank d = true)
    (hr : stopsWord r = true) : ¬ JoinAhead (g ++ (c.chars ++ r)) := by
  cases c with
  | bare w hw => exact not_joinAhead_blanks_word hg hw.word (Ident.not_join hw) hr
  | qualified t w ht hw =>
    simp only [ColumnRef.chars, List.append_assoc, List.cons_append]
    exact not_joinAhead_blanks_word hg ht.word (Ident.not_join ht) rfl

/-- A comma with blanks around it, before a column, starts no join. -/
theorem Separator.noJoinIn (s : Separator) (c : ColumnRef) {r : List Char}
    (hr : stopsWord r = true) : NoJoinIn s.chars (c.chars ++ r) := by
  have hb : isBlank ',' = false := by decide
  have hw : isWordChar ',' = false := by decide
  have h1 : NoJoinIn s.before.chars ([','] ++ (s.after.chars ++ (c.chars ++ r))) :=
    noJoinIn_blanks s.before.blank (joinTail_eq_none (not_joinAhead_blanks_mark s.before.blank hb hw))
  have h2 : NoJoinIn s.after.chars (c.chars ++ r) :=
    noJoinIn_blanks s.after.blank (joinTail_eq_none (c.not_joinAhead s.after.blank hr))
  rw [Separator.chars, show s.before.chars ++ ',' :: s.after.chars =
    s.before.chars ++ [','] ++ s.after.chars by simp]
  exact (h1.append (noJoinIn_mark hb hw _)).append h2

theorem noJoinIn_columns (more : List (Separator × ColumnRef)) {rest : List Char}
    (hr : stopsWord rest = true) :
    NoJoinIn (more.flatMap fun sc => sc.1.chars ++ sc.2.chars) rest := by
  induction more with
  | nil => exact noJoinIn_nil rest
  | cons sc more ih =>
    have hs := stopsWord_columns more hr
    simp only [List.flatMap_cons]
    exact ((sc.1.noJoinIn sc.2 hs).append (sc.2.noJoinIn hs)).append ih

/-- A `GROUP BY` clause starts no join, where a word may end after it. -/
theorem GroupClause.noJoinIn (g : GroupClause) {rest : List Char} (hr : stopsWord rest = true) :
    NoJoinIn g.chars rest := by
  have hks : ∀ w ∈ ["GROUP", "BY"], IsUpperWord w := by simp [IsUpperWord]
  have hcols := stopsWord_columns g.more hr
  have hgap' : ∀ r, stopsWord (g.gap'.chars ++ r) = true :=
    fun r => stopsWord_of_head_blank (g.gap'.head_blank r)
  have h1 := noJoinIn_gap g.gap (joinTail_eq_none (not_joinAhead_gap_written g.gap g.keyword.written
    (by simp [IsUpperWord]) (by decide) (hgap' (g.first.chars ++
      ((g.more.flatMap fun sc => sc.1.chars ++ sc.2.chars) ++ rest)))))
  have h2 := Written.noJoinIn g.keyword.written hks (by simp [joinKinds]) (by simp)
    (hgap' (g.first.chars ++ ((g.more.flatMap fun sc => sc.1.chars ++ sc.2.chars) ++ rest)))
  have h3 := noJoinIn_gap g.gap' (joinTail_eq_none (g.first.not_joinAhead g.gap'.blank hcols))
  exact (((h1.append h2).append h3).append (g.first.noJoinIn hcols)).append
    (noJoinIn_columns g.more hr)

-- ============================================================ the join keyword

/-- A join written with `JOIN` alone, after a word, is found whole, and the search goes on after
its condition. -/
theorem joinsFrom_plain_join {d : Char} (hd : isWordChar d = true) {J t O c rest : List Char}
    (g g1 g2 g3 : Gap) (hJ : Spelled "JOIN" J) (ht : IsWord t) (hO : Spelled "ON" O)
    (hc : c ≠ []) (hhead : ∀ e ∈ c.head?, isBlank e = false)
    (hlen : conditionLength (c ++ rest) = c.length) :
    joinsFrom (some d) (g.chars ++ (J ++ (g1.chars ++ (t ++ (g2.chars ++ (O ++ (g3.chars ++
      (c ++ rest)))))))) = ⟨"INNER", String.ofList t, trim (String.ofList c)⟩ :: joinsFrom c.getLast? rest := by
  have lJ : J.length = 4 := hJ.length_eq
  have lO : O.length = 2 := hO.length_eq
  have h := joinAt_plain hd g g1 g2 g3 hJ ht hO hc hhead hlen
  rw [show g.chars.length + 4 + g1.chars.length + t.length + g2.chars.length + 2 +
      g3.chars.length + c.length =
      (g.chars ++ J ++ g1.chars ++ t ++ g2.chars ++ O ++ g3.chars ++ c).length by
    simp only [List.length_append, lJ, lO]] at h
  have hfound := joinsFrom_of_joinAt (by simp [hc]) h
  rw [List.getLast?_append_of_ne_nil _ hc] at hfound
  simpa only [List.append_assoc] using hfound

/-- A join written with its kind, after a character outside words, is found whole, and the
search goes on after its condition. -/
theorem joinsFrom_kind_join {prev : Option Char} (hprev : ∀ e ∈ prev, isWordChar e = false)
    {kd : String} (hkd : kd ∈ joinKinds) {K J t O c rest : List Char} (hK : Spelled kd K)
    (h g1 g2 g3 : Gap) (hJ : Spelled "JOIN" J) (ht : IsWord t) (hO : Spelled "ON" O)
    (hc : c ≠ []) (hhead : ∀ e ∈ c.head?, isBlank e = false)
    (hlen : conditionLength (c ++ rest) = c.length) :
    joinsFrom prev (K ++ (h.chars ++ (J ++ (g1.chars ++ (t ++ (g2.chars ++ (O ++ (g3.chars ++
      (c ++ rest))))))))) = ⟨kd, String.ofList t, trim (String.ofList c)⟩ :: joinsFrom c.getLast? rest := by
  have lJ : J.length = 4 := hJ.length_eq
  have lO : O.length = 2 := hO.length_eq
  have hj := joinAt_kind hprev hkd hK h g1 g2 g3 hJ ht hO hc hhead hlen
  rw [← List.append_assoc K, show K.length + (h.chars.length + 4 + g1.chars.length + t.length +
      g2.chars.length + 2 + g3.chars.length + c.length) =
      (K ++ (h.chars ++ J ++ g1.chars ++ t ++ g2.chars ++ O ++ g3.chars ++ c)).length by
    simp only [List.length_append, lJ, lO]] at hj
  have hfound := joinsFrom_of_joinAt (by simp [hc]) hj
  rw [List.getLast?_append_of_ne_nil _ (by simp [hc]), List.getLast?_append_of_ne_nil _ hc] at hfound
  simpa only [List.append_assoc] using hfound

namespace JoinKind

theorem words_kind {k : String} (hk : k ∈ joinKinds) : IsUpperWord k ∧ k ≠ "JOIN" :=
  ⟨joinKinds_upper k hk, fun e => absurd (e ▸ hk) (by decide)⟩

/-- A join keyword is `JOIN` alone, a kind and `JOIN`, or a kind, `OUTER` and `JOIN`; the kind
the text search reports is the one right before `JOIN`. What holds of the three shapes holds of
every keyword. -/
theorem words_cases {P : List String → String → Prop} (hplain : P ["JOIN"] "INNER")
    (htwo : ∀ k ∈ joinKinds, P [k, "JOIN"] k)
    (hthree : ∀ k ∈ joinKinds, P [k, "OUTER", "JOIN"] "INNER") (kind : JoinKind) :
    P kind.words kind.reported := by
  cases kind with
  | plain => exact hplain
  | inner => exact htwo "INNER" (by decide)
  | left => exact htwo "LEFT" (by decide)
  | right => exact htwo "RIGHT" (by decide)
  | full => exact htwo "FULL" (by decide)
  | leftOuter => exact hthree "LEFT" (by decide)
  | rightOuter => exact hthree "RIGHT" (by decide)
  | fullOuter => exact hthree "FULL" (by decide)

section keyword
variable {X : List Char}

theorem noJoinIn_joinWord {J : List Char} (hJ : Spelled "JOIN" J) (hr : stopsWord X = true) :
    NoJoinIn J X :=
  have hJu : IsUpperWord "JOIN" := by simp [IsUpperWord]
  noJoinIn_word (hJ.isWord hJu) (kindless (spelled_kindless hJ hJu (by decide))) hr

/-- Blanks before a word other than `JOIN` that blanks follow start no join. -/
theorem noJoinIn_before_word {k : String} (hk : IsUpperWord k) (hkj : k ≠ "JOIN") {s : List Char}
    (hs : Spelled k s) (g h : Gap) (R : List Char) : NoJoinIn g.chars (s ++ (h.chars ++ R)) :=
  noJoinIn_gap g (joinTail_eq_none (not_joinAhead_gap_word g (hs.isWord hk)
    (foldsTo_spelled_ne hs hk (by simp [IsUpperWord]) (Ne.symm hkj))
    (stopsWord_of_head_blank (h.head_blank _))))

/-- A kind and `OUTER`, with the blanks before and between them, start no join, where blanks
follow. -/
theorem noJoinIn_outer_lead {k : String} (hk : IsUpperWord k) (hkj : k ≠ "JOIN") {s1 o : List Char}
    (hK : Spelled k s1) (hO : Spelled "OUTER" o) (g h : Gap) {R : List Char}
    (hR : ∀ c ∈ R.head?, isBlank c = true) : NoJoinIn (g.chars ++ s1 ++ h.chars ++ o) R := by
  have hOu : IsUpperWord "OUTER" := by simp [IsUpperWord]
  have hr := stopsWord_of_head_blank hR
  -- after the kind come blanks and `OUTER`, which lead to no join
  have hno : joinTail (h.chars ++ (o ++ R)) = none :=
    joinTail_eq_none (not_joinAhead_gap_word h (hO.isWord hOu)
      (foldsTo_spelled_ne hO hOu (by simp [IsUpperWord]) (by decide)) hr)
  have h1 : NoJoinIn s1 (h.chars ++ (o ++ R)) :=
    noJoinIn_word (hK.isWord hk) (fun _ _ _ => hno) (stopsWord_of_head_blank (h.head_blank _))
  have h2 : NoJoinIn o R := noJoinIn_word (hO.isWord hOu) (kindless (spelled_kindless hO hOu (by decide))) hr
  exact (((noJoinIn_before_word hk hkj hK g h (o ++ R)).append h1).append (noJoinIn_gap h hno)).append h2

/-- Where no join tail is found after blanks and `JOIN`, a join keyword and the blanks before it
start no join. -/
theorem noJoinIn_keyword (kind : JoinKind) (kw : Phrase kind.words) (g : Gap)
    (hX : ∀ (h : Gap) (J : List Char), Spelled "JOIN" J → joinTail (h.chars ++ (J ++ X)) = none)
    (hr : stopsWord X = true) : NoJoinIn (g.chars ++ kw.chars) X := by
  -- `JOIN` alone
  have hplain : ∀ kw : Phrase ["JOIN"], NoJoinIn (g.chars ++ kw.chars) X := fun kw =>
    have hJ := Written.spelled_single kw.written
    (noJoinIn_gap g (hX g _ hJ)).append (noJoinIn_joinWord hJ hr)
  -- a kind and `JOIN`: at the kind the join tail after it is wanted, and none is found
  have htwo : ∀ k ∈ joinKinds, ∀ kw : Phrase [k, "JOIN"], NoJoinIn (g.chars ++ kw.chars) X := by
    intro k hk kw
    obtain ⟨hku, hkj⟩ := words_kind hk
    obtain ⟨s1, h, J, hs, hK, hw⟩ := Written.split kw.written
    have hJ := Written.spelled_single hw
    rw [hs]
    simp only [← List.append_assoc]
    have h1 : NoJoinIn s1 (h.chars ++ (J ++ X)) :=
      noJoinIn_word (hK.isWord hku) (fun _ _ _ => hX h J hJ)
        (stopsWord_of_head_blank (h.head_blank _))
    exact (((noJoinIn_before_word hku hkj hK g h (J ++ X)).append h1).append
      (noJoinIn_gap h (hX h J hJ))).append (noJoinIn_joinWord hJ hr)
  -- a kind, `OUTER` and `JOIN`
  have hthree : ∀ k ∈ joinKinds, ∀ kw : Phrase [k, "OUTER", "JOIN"],
      NoJoinIn (g.chars ++ kw.chars) X := by
    intro k hk kw
    obtain ⟨hku, hkj⟩ := words_kind hk
    obtain ⟨s1, h, more, hs, hK, hw⟩ := Written.split kw.written
    obtain ⟨o, h', J, hm, hO, hw'⟩ := Written.split hw
    have hJ := Written.spelled_single hw'
    rw [hs, hm]
    simp only [← List.append_assoc]
    exact ((noJoinIn_outer_lead hku hkj hK hO g h (h'.head_blank _)).append
      (noJoinIn_gap h' (hX h' J hJ))).append (noJoinIn_joinWord hJ hr)
  exact words_cases (P := fun ws _ => ∀ kw : Phrase ws, NoJoinIn (g.chars ++ kw.chars) X)
    hplain htwo hthree kind kw

end keyword

section found
variable {X : List Char} {found : String → Join} {after : List Join}

/-- A join keyword after a word, with what follows it, is found as a join of the kind written
right before `JOIN`, given how the join after a kind and after blanks is found. -/
theorem joinsFrom_found (kind : JoinKind) (kw : Phrase kind.words) (g : Gap)
    (hplain : ∀ (h : Gap) (J : List Char) (d : Char), isWordChar d = true → Spelled "JOIN" J →
      joinsFrom (some d) (h.chars ++ (J ++ X)) = found "INNER" :: after)
    (hkind : ∀ (prev : Option Char) (kd : String) (K : List Char) (h : Gap) (J : List Char),
      (∀ e ∈ prev, isWordChar e = false) → kd ∈ joinKinds → Spelled kd K → Spelled "JOIN" J →
      joinsFrom prev (K ++ (h.chars ++ (J ++ X))) = found kd :: after)
    {d : Char} (hd : isWordChar d = true) :
    joinsFrom (some d) (g.chars ++ (kw.chars ++ X)) = found kind.reported :: after := by
  -- a kind and `JOIN`: the blanks before the kind lead to no join, which is found at the kind
  have htwo : ∀ k ∈ joinKinds, ∀ kw : Phrase [k, "JOIN"],
      joinsFrom (some d) (g.chars ++ (kw.chars ++ X)) = found k :: after := by
    intro k hk kw
    obtain ⟨hku, hkj⟩ := words_kind hk
    obtain ⟨s1, h, J, hs, hK, hw⟩ := Written.split kw.written
    obtain ⟨b, hb, hbb⟩ := g.getLast_blank
    rw [hs]
    simp only [List.append_assoc]
    rw [(noJoinIn_before_word hku hkj hK g h (J ++ X)).joinsFrom, hb, Option.some_or]
    refine hkind _ k s1 h J (fun e he => ?_) hk hK (Written.spelled_single hw)
    rw [Option.mem_some_iff] at he
    exact he ▸ isWordChar_of_isBlank hbb
  -- a kind, `OUTER` and `JOIN`: the join is found at the blanks after `OUTER`
  have hthree : ∀ k ∈ joinKinds, ∀ kw : Phrase [k, "OUTER", "JOIN"],
      joinsFrom (some d) (g.chars ++ (kw.chars ++ X)) = found "INNER" :: after := by
    intro k hk kw
    obtain ⟨hku, hkj⟩ := words_kind hk
    obtain ⟨s1, h, more, hs, hK, hw⟩ := Written.split kw.written
    obtain ⟨o, h', J, hm, hO, hw'⟩ := Written.split hw
    have hOw : IsWord o := hO.isWord (by simp [IsUpperWord])
    obtain ⟨e, he⟩ := Option.isSome_iff_exists.mp (List.getLast?_isSome.mpr hOw.1)
    have hsplit : g.chars ++ (kw.chars ++ X) =
        (g.chars ++ s1 ++ h.chars ++ o) ++ (h'.chars ++ (J ++ X)) := by
      rw [hs, hm]
      simp only [List.append_assoc]
    rw [hsplit, (noJoinIn_outer_lead hku hkj hK hO g h (h'.head_blank _)).joinsFrom,
      List.getLast?_append_of_ne_nil _ hOw.1, he, Option.some_or]
    exact hplain h' J e (hOw.2 e (List.mem_of_getLast? he)) (Written.spelled_single hw')
  exact words_cases
    (P := fun ws r => ∀ kw : Phrase ws, joinsFrom (some d) (g.chars ++ (kw.chars ++ X)) =
      found r :: after)
    (fun kw => hplain g kw.chars d hd (Written.spelled_single kw.written)) htwo hthree kind kw

end found

end JoinKind

-- ============================================================ the join

/-- An alias between the table and `ON` hides the join from the text search: after the table
and blanks, the search wants `ON`. -/
theorem joinTail_eq_none_of_alias (a : Alias) (g1 g2 : Gap) {J t r : List Char} (hJ : Spelled "JOIN" J)
    (ht : IsWord t) (hr : stopsWord r = true) :
    joinTail (g1.chars ++ (J ++ (g2.chars ++ (t ++ (a.chars ++ r))))) = none := by
  rcases a with ⟨ag, as, w, hw, hon⟩
  cases as with
  | none =>
    have h := joinTail_not_on g1 g2 ag hJ ht hw.word hon hr
    simpa only [Alias.chars, Option.map_none, Option.getD_none, List.append_nil,
      List.append_assoc] using h
  | some pg =>
    obtain ⟨p, g'⟩ := pg
    have hAS : IsUpperWord "AS" := by simp [IsUpperWord]
    have hs := Written.spelled_single p.written
    have h := joinTail_not_on g1 g2 ag hJ ht (hs.isWord hAS)
      (foldsTo_spelled_ne hs hAS (by simp [IsUpperWord]) (by decide))
      (stopsWord_of_head_blank (g'.head_blank (w ++ r)))
    simpa only [Alias.chars, Option.map_some, Option.getD_some, List.append_assoc] using h

namespace Alias

/-- An alias starts no join, where a word may end after it. -/
theorem noJoinIn (a : Alias) {r : List Char} (hr : stopsWord r = true) : NoJoinIn a.chars r := by
  rcases a with ⟨ag, as, w, hw, hon⟩
  have hname : NoJoinIn w r := noJoinIn_word hw.word (kindless (Ident.kindless hw)) hr
  have hgap : ∀ g : Gap, NoJoinIn g.chars (w ++ r) := fun g =>
    noJoinIn_gap g (joinTail_eq_none (not_joinAhead_gap_word g hw.word (Ident.not_join hw) hr))
  cases as with
  | none =>
    simp only [Alias.chars, Option.map_none, Option.getD_none, List.append_nil]
    exact (hgap ag).append hname
  | some pg =>
    obtain ⟨p, g'⟩ := pg
    have hAS : IsUpperWord "AS" := by simp [IsUpperWord]
    have hg' : stopsWord (g'.chars ++ (w ++ r)) = true := stopsWord_of_head_blank (g'.head_blank _)
    simp only [Alias.chars, Option.map_some, Option.getD_some, ← List.append_assoc]
    have h1 := noJoinIn_gap ag (joinTail_eq_none (not_joinAhead_gap_written ag p.written hAS
      (by decide) hg'))
    have h2 := Written.noJoinIn p.written (by simp [IsUpperWord]) (by simp [joinKinds]) (by simp) hg'
    exact ((h1.append h2).append (hgap g')).append hname

end Alias

namespace JoinClause

/-- The join the text search finds in a join clause: the join written, unless an alias hides
it. -/
def found (j : JoinClause) : List Join :=
  match j.tableAlias with
  | none => [⟨j.kind.reported, String.ofList j.table, String.ofList j.condition⟩]
  | some _ => []

variable {j : JoinClause} {rest : List Char}

/-- From the blanks before `ON` on, a join clause starts no join: a text before them that starts
none is extended to one that ends with the condition. -/
theorem noJoinIn_on (hj : j.Valid rest) (hhead : ∀ d ∈ rest.head?, isBlank d = true)
    (hq : ¬ JoinAhead rest) {P : List Char}
    (hP : NoJoinIn P (j.gap2.chars ++ (j.on.chars ++ (j.gap3.chars ++ (j.condition ++ rest))))) :
    NoJoinIn (P ++ j.gap2.chars ++ j.on.chars ++ j.gap3.chars ++ j.condition) rest := by
  have hc := hj.condition
  have hr : stopsWord (j.gap3.chars ++ (j.condition ++ rest)) = true :=
    stopsWord_of_head_blank (j.gap3.head_blank _)
  have h1 := noJoinIn_gap j.gap2 (joinTail_eq_none (not_joinAhead_gap_written j.gap2 j.on.written
    (by simp [IsUpperWord]) (by decide) hr))
  have h2 := Written.noJoinIn j.on.written (by simp [IsUpperWord]) (by simp [joinKinds]) (by simp) hr
  have h3 := noJoinIn_gap j.gap3 (joinTail_eq_none (not_joinAhead_gap_part j.gap3
    (fun d hd => (hc.head d hd).1) hc.ne_nil hc.noJoin (stopsWord_of_head_blank hhead)))
  exact (((hP.append h1).append h2).append h3).append (noJoinIn_part hc.last hc.noJoin hhead hq)

/-- The text search over a join clause, after a word, finds the join written unless an alias
hides it, and goes on after the condition. -/
theorem joinsFrom_append (hj : j.Valid rest) (hend : rest = [] ∨ clauseAhead rest = true)
    (hhead : ∀ d ∈ rest.head?, isBlank d = true) (hq : ¬ JoinAhead rest) {d : Char}
    (hd : isWordChar d = true) :
    joinsFrom (some d) (j.chars ++ rest) = j.found ++ joinsFrom j.condition.getLast? rest := by
  rcases j with ⟨g, kind, kw, g1, t, ht, al, g2, on, g3, c⟩
  have hc := hj.condition
  have hO := Written.spelled_single on.written
  cases al with
  | none =>
    -- the condition runs to the clause after it, and the join is found whole
    have hlen : conditionLength (c ++ rest) = c.length :=
      conditionLength_of_clause hc.ne_nil hc.last hj.noClause hend
    have hhc : ∀ e ∈ c.head?, isBlank e = false := fun e he => (hc.head e he).1
    simp only [JoinClause.chars, found, Option.map_none, Option.getD_none, List.append_nil,
      List.append_assoc, List.singleton_append]
    refine @JoinKind.joinsFrom_found _ (fun k => ⟨k, String.ofList t, String.ofList c⟩) _ kind kw g
      (fun h J e he hJ => ?_) (fun prev kd K h J hprev hkd hK hJ => ?_) d hd
    · rw [joinsFrom_plain_join he h g1 g2 g3 hJ ht.word hO hc.ne_nil hhc hlen, hc.trim_ofList]
    · rw [joinsFrom_kind_join hprev hkd hK h g1 g2 g3 hJ ht.word hO hc.ne_nil hhc hlen,
        hc.trim_ofList]
  | some a =>
    -- the alias hides the join, and nothing else starts one
    have hX : ∀ (h : Gap) (J : List Char), Spelled "JOIN" J → joinTail (h.chars ++ (J ++
        (g1.chars ++ (t ++ (a.chars ++ (g2.chars ++ (on.chars ++ (g3.chars ++ (c ++ rest))))))))) =
        none :=
      fun h J hJ => joinTail_eq_none_of_alias a h g1 hJ ht.word (stopsWord_of_head_blank (g2.head_blank _))
    have hk := kind.noJoinIn_keyword kw g hX (stopsWord_of_head_blank (g1.head_blank _))
    have h1 := noJoinIn_gap g1 (joinTail_eq_none (not_joinAhead_gap_word g1 ht.word
      (Ident.not_join ht) (a.stopsWord_append (g2.chars ++ (on.chars ++ (g3.chars ++ (c ++ rest)))))))
    have h2 := noJoinIn_word ht.word (kindless (Ident.kindless ht))
      (a.stopsWord_append (g2.chars ++ (on.chars ++ (g3.chars ++ (c ++ rest)))))
    have h3 := a.noJoinIn (stopsWord_of_head_blank
      (g2.head_blank (on.chars ++ (g3.chars ++ (c ++ rest)))))
    have hall := noJoinIn_on hj hhead hq (((hk.append h1).append h2).append h3)
    obtain ⟨e, he⟩ := Option.isSome_iff_exists.mp (List.getLast?_isSome.mpr hc.ne_nil)
    simp only [JoinClause.chars, found, Option.map_some, Option.getD_some, List.nil_append]
    rw [hall.joinsFrom, List.getLast?_append_of_ne_nil _ hc.ne_nil, he, Option.some_or]

end JoinClause

-- ============================================================ the query

namespace Select

variable {q : Select}

theorem not_joinAhead_fromLimit (q : Select) : ¬ JoinAhead q.fromLimit := by
  have h := not_joinAhead_optional q.limit Clause.chars
    (fun c r => c.not_joinAhead (by simp [IsUpperWord]) (by decide) r) not_joinAhead_nil
  rwa [List.append_nil] at h

theorem not_joinAhead_fromOrder (q : Select) : ¬ JoinAhead q.fromOrder :=
  not_joinAhead_optional q.order Clause.chars
    (fun c r => c.not_joinAhead (by simp [IsUpperWord]) (by decide) r) q.not_joinAhead_fromLimit

theorem not_joinAhead_fromHaving (q : Select) : ¬ JoinAhead q.fromHaving :=
  not_joinAhead_optional q.having Clause.chars
    (fun c r => c.not_joinAhead (by simp [IsUpperWord]) (by decide) r) q.not_joinAhead_fromOrder

theorem not_joinAhead_fromGroup (q : Select) : ¬ JoinAhead q.fromGroup :=
  not_joinAhead_optional q.group GroupClause.chars GroupClause.not_joinAhead
    q.not_joinAhead_fromHaving

theorem not_joinAhead_fromFilter (q : Select) : ¬ JoinAhead q.fromFilter :=
  not_joinAhead_optional q.filter Clause.chars
    (fun c r => c.not_joinAhead (by simp [IsUpperWord]) (by decide) r) q.not_joinAhead_fromGroup

/-- What follows a join condition is nothing, or a clause that ends the condition. -/
theorem fromFilter_ends (q : Select) : q.fromFilter = [] ∨ clauseAhead q.fromFilter = true := by
  have hl : q.fromLimit = [] ∨ clauseAhead q.fromLimit = true := by
    have h := clauseAhead_optional q.limit Clause.chars
      (fun c r => c.clauseAhead (by simp [IsUpperWord]) (by decide) r) (Or.inl rfl)
    rwa [List.append_nil] at h
  have ho := clauseAhead_optional q.order Clause.chars
    (fun c r => c.clauseAhead (by simp [IsUpperWord]) (by decide) r) hl
  have hh := clauseAhead_optional q.having Clause.chars
    (fun c r => c.clauseAhead (by simp [IsUpperWord]) (by decide) r) ho
  have hg := clauseAhead_optional q.group GroupClause.chars GroupClause.clauseAhead hh
  exact clauseAhead_optional q.filter Clause.chars
    (fun c r => c.clauseAhead (by simp [IsUpperWord]) (by decide) r) hg

/-- No join starts in the clauses after the join. -/
theorem noJoinIn_fromFilter (hq : q.Valid) : NoJoinIn q.fromFilter [] := by
  have hl : NoJoinIn q.fromLimit [] := noJoinIn_optional q.limit Clause.chars fun c hc =>
    c.noJoinIn (by simp [IsUpperWord]) (by simp [joinKinds]) (by simp) (hq.limit c hc) (by simp)
      not_joinAhead_nil
  have ho : NoJoinIn q.fromOrder [] := NoJoinIn.append_nil (noJoinIn_optional q.order Clause.chars
    fun c hc => c.noJoinIn (by simp [IsUpperWord]) (by simp [joinKinds]) (by simp) (hq.order c hc)
      q.fromLimit_head q.not_joinAhead_fromLimit) hl
  have hh : NoJoinIn q.fromHaving [] := NoJoinIn.append_nil (noJoinIn_optional q.having
    Clause.chars fun c hc => c.noJoinIn (by simp [IsUpperWord]) (by simp [joinKinds]) (by simp)
      (hq.having c hc) q.fromOrder_head q.not_joinAhead_fromOrder) ho
  have hg : NoJoinIn q.fromGroup [] := NoJoinIn.append_nil (noJoinIn_optional q.group
    GroupClause.chars fun g _ => g.noJoinIn (stopsWord_of_head_blank q.fromHaving_head)) hh
  exact NoJoinIn.append_nil (noJoinIn_optional q.filter Clause.chars fun c hc =>
    c.noJoinIn (by simp [IsUpperWord]) (by simp [joinKinds]) (by simp) (hq.filter c hc)
      q.fromGroup_head q.not_joinAhead_fromGroup) hg

/-- The text search over a query of the readers' shape finds the join written, unless an alias
hides it, and nothing else. -/
theorem joinsInText_chars (hq : q.Valid) :
    joinsInText (String.ofList q.chars) = (q.join.map JoinClause.found).getD [] := by
  have hi := hq.items
  have hJ : stopsWord q.fromJoin = true := stopsWord_of_head_blank q.fromJoin_head
  have hsrc : stopsWord (q.gap3.chars ++ (q.source ++ q.fromJoin)) = true :=
    stopsWord_of_head_blank (q.gap3.head_blank _)
  have hAh : ∀ d ∈ q.afterItems.head?, isBlank d = true := by
    unfold afterItems
    simp only [List.append_assoc]
    exact q.gap2.head_blank _
  have hA : ¬ JoinAhead q.afterItems := by
    unfold afterItems
    simp only [List.append_assoc]
    exact not_joinAhead_gap_written q.gap2 q.fromWord.written (by simp [IsUpperWord]) (by decide) hsrc
  -- the select list and what comes before it start no join
  have h1 := Written.noJoinIn q.select.written (by simp [IsUpperWord]) (by simp [joinKinds])
    (by simp) (stopsWord_of_head_blank (q.gap1.head_blank (q.items ++ q.afterItems)))
  have h2 := noJoinIn_gap q.gap1 (joinTail_eq_none (not_joinAhead_gap_part q.gap1
    (fun d hd => (hi.head d hd).1) hi.ne_nil hi.noJoin (stopsWord_of_head_blank hAh)))
  have hpre : NoJoinIn (q.select.chars ++ q.gap1.chars ++ q.items) q.afterItems :=
    (h1.append h2).append (noJoinIn_part hi.last hi.noJoin hAh hA)
  -- nor do `FROM` and the table
  have h3 := noJoinIn_gap q.gap2 (joinTail_eq_none (not_joinAhead_gap_written q.gap2
    q.fromWord.written (by simp [IsUpperWord]) (by decide) hsrc))
  have h4 := Written.noJoinIn q.fromWord.written (by simp [IsUpperWord]) (by simp [joinKinds])
    (by simp) hsrc
  have h5 := noJoinIn_gap q.gap3 (joinTail_eq_none (not_joinAhead_gap_word q.gap3 q.ident.word
    (Ident.not_join q.ident) hJ))
  have h6 := noJoinIn_word q.ident.word (kindless (Ident.kindless q.ident)) hJ
  have hfrom : NoJoinIn (q.gap2.chars ++ q.fromWord.chars ++ q.gap3.chars ++ q.source) q.fromJoin :=
    ((h3.append h4).append h5).append h6
  -- after the join, nothing is found
  have hrest : ∀ p, joinsFrom p q.fromFilter = [] := fun p => by
    have h := (noJoinIn_fromFilter hq).joinsFrom p
    rw [List.append_nil] at h
    rw [h, joinsFrom.eq_1]
  obtain ⟨d, hd⟩ := Option.isSome_iff_exists.mp (List.getLast?_isSome.mpr q.ident.word.1)
  have hdw : isWordChar d = true := q.ident.word.2 d (List.mem_of_getLast? hd)
  unfold joinsInText
  rw [String.toList_ofList, chars, hpre.joinsFrom, afterItems, hfrom.joinsFrom,
    List.getLast?_append_of_ne_nil _ q.ident.word.1, hd, Option.some_or]
  unfold fromJoin
  cases hj : q.join with
  | none =>
    simp only [Option.map_none, Option.getD_none, List.nil_append]
    exact hrest _
  | some j =>
    simp only [Option.map_some, Option.getD_some]
    rw [j.joinsFrom_append (hq.join j hj) q.fromFilter_ends q.fromFilter_head
      q.not_joinAhead_fromFilter hdw, hrest, List.append_nil]

end Select

end QueryDiagram.Query
