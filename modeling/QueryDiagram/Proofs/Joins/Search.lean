import QueryDiagram.Proofs.Outcome
import QueryDiagram.Proofs.Tokens.Pieces

/-!
Where the text search finds a join.

A join in the text needs, after its kind, blanks, then `JOIN` with a blank after it
(`JoinAhead`, `joinAhead_of_joinTail`). So the search passes over a piece of text without a
find when nothing of that shape can start in it: a word that is no join kind, a run of blanks
that no `JOIN` follows, or any piece that holds no word `JOIN` of its own and ends in a
character that is not blank (`joinsFrom_append_of_none`). A piece of text is quiet in this sense
as a whole, and the search over a text made of quiet pieces goes from one piece to the next.
-/

namespace QueryDiagram.Query

open Sql Text
open Feature (charBefore)

-- ============================================================ words in a text

/-- The word `x` at position `m` of `p`: its letters in either case, a blank or the start of
`p` before them, and no word character after them. -/
def WordAt (x : String) (p : List Char) (m : Nat) : Prop :=
  startsWithFold x.toList (p.drop m) = true ∧ (∀ c ∈ (p.take m).getLast?, isBlank c = true) ∧
    endsWord (p.drop (m + x.length)) = true

/-- The word `x` occurs in `p`. -/
def HasWord (x : String) (p : List Char) : Prop := ∃ m, WordAt x p m

/-- What a join needs after its kind: blanks, then `JOIN` with a blank after it. -/
def JoinAhead (r : List Char) : Prop :=
  ∃ b, 0 < b ∧ (∀ c ∈ r.take b, isBlank c = true) ∧
    startsWithFold "JOIN".toList (r.drop b) = true ∧
    ∃ c, (r.drop (b + 4)).head? = some c ∧ isBlank c = true

theorem spanLength_pos_iff (p : Char → Bool) (l : List Char) :
    0 < spanLength p l ↔ ∃ c t, l = c :: t ∧ p c = true := by
  cases l with
  | nil => simp [spanLength]
  | cons c t => by_cases h : p c <;> simp [spanLength, h]

theorem all_take_spanLength (p : Char → Bool) (l : List Char) :
    ∀ c ∈ l.take (spanLength p l), p c = true := by
  induction l with
  | nil => simp
  | cons c t ih =>
    by_cases h : p c
    · simpa [spanLength, h] using ih
    · simp [spanLength, h]

/-- The tail of a join after its kind starts with blanks and a `JOIN` that a blank follows. -/
theorem joinAhead_of_joinTail {r : List Char} {x : String × String × Nat}
    (h : joinTail r = some x) : JoinAhead r := by
  unfold joinTail at h
  simp only [Bool.or_eq_true, decide_eq_true_eq, Bool.not_eq_true'] at h
  split at h
  · cases h
  · rename_i h1
    simp only [not_or, Bool.not_eq_false] at h1
    split at h
    · cases h
    · rename_i h2
      simp only [not_or] at h2
      obtain ⟨⟨⟨hb2, -⟩, -⟩, -⟩ := h2
      refine ⟨spanLength isBlank r, Nat.pos_of_ne_zero h1.1, all_take_spanLength _ _, h1.2, ?_⟩
      obtain ⟨c, t, hct, hc⟩ := (spanLength_pos_iff isBlank _).mp (Nat.pos_of_ne_zero hb2)
      refine ⟨c, ?_, hc⟩
      rw [← List.drop_drop, hct]
      rfl

-- ============================================================ one position

/-- A join found at a position: a word boundary there, and after an optional written kind,
the tail of a join. -/
theorem joinAt_eq_some {prev : Option Char} {cs : List Char} {x : Join × Nat}
    (h : joinAt prev cs = some x) :
    isBoundary prev cs.head? = true ∧ ∃ k, (k = 0 ∨ ∃ kd ∈ joinKinds,
      startsWithFold kd.toList cs = true ∧ k = kd.length) ∧ ∃ y, joinTail (cs.drop k) = some y := by
  unfold joinAt at h
  split at h
  · cases h
  · rename_i hb
    dsimp only at h
    refine ⟨by simpa using hb,
      ((joinKinds.find? fun k => startsWithFold k.toList cs).map (·.length)).getD 0, ?_, ?_⟩
    · cases hw : joinKinds.find? (fun k => startsWithFold k.toList cs) with
      | none => exact Or.inl rfl
      | some kd =>
        exact Or.inr ⟨kd, List.mem_of_find?_eq_some hw, by simpa using List.find?_some hw, rfl⟩
    · obtain ⟨y, hy, -⟩ := Option.map_eq_some_iff.mp h
      exact ⟨y, hy⟩

/-- Where nothing leads to a `JOIN`, no tail of a join is found. -/
theorem joinTail_eq_none {r : List Char} (h : ¬ JoinAhead r) : joinTail r = none := by
  cases hj : joinTail r with
  | none => rfl
  | some x => exact absurd (joinAhead_of_joinTail hj) h

/-- No join starts where no word boundary is. -/
theorem joinAt_of_not_boundary {prev : Option Char} {cs : List Char}
    (h : isBoundary prev cs.head? = false) : joinAt prev cs = none := by
  simp [joinAt, h]

/-- Between two word characters, or two characters that are not, lies no boundary. -/
theorem isBoundary_same {a b : Char} (h : isWordChar a = isWordChar b) :
    isBoundary (some a) (some b) = false := by
  simp [isBoundary, h]

theorem charBefore_succ {prev : Option Char} {p : List Char} {i : Nat} (hi : i < p.length) :
    charBefore prev p (i + 1) = some p[i] := by
  simp [charBefore, List.getLast?_take, hi]

-- ============================================================ the search over pieces

/-- Where no join starts at any position of `p`, the search passes over it. -/
theorem joinsFrom_append_of_none {prev : Option Char} {p rest : List Char}
    (h : ∀ i < p.length, joinAt (charBefore prev p i) ((p ++ rest).drop i) = none) :
    joinsFrom prev (p ++ rest) = joinsFrom (p.getLast?.or prev) rest := by
  induction p generalizing prev with
  | nil => rfl
  | cons c p ih =>
    have h0 : joinAt prev (c :: (p ++ rest)) = none := by
      simpa [charBefore] using h 0 (by simp)
    have hrest : ∀ i < p.length,
        joinAt (charBefore (some c) p i) ((p ++ rest).drop i) = none := by
      intro i hi
      have := h (i + 1) (by simp [hi])
      simpa [charBefore, List.getLast?_cons] using this
    rw [List.cons_append, joinsFrom, h0]
    simp only
    rw [ih hrest]
    simp [List.getLast?_cons]

/-- What a join needs after its kind starts with a blank. -/
theorem not_joinAhead_cons {c : Char} (t : List Char) (hc : isBlank c = false) :
    ¬ JoinAhead (c :: t) := by
  rintro ⟨b, hb, hall, -⟩
  obtain ⟨b, rfl⟩ := Nat.exists_eq_add_of_lt hb
  have := hall c (by simp)
  rw [hc] at this
  cases this

theorem joinKinds_alpha : ∀ kd ∈ joinKinds, ∀ p ∈ kd.toList, p.isAlpha = true := by
  simp [joinKinds]

/-- A join kind starts with a letter, so not at a character outside words. -/
theorem startsWithFold_kind_cons {kd : String} (hkd : kd ∈ joinKinds) {c : Char} (t : List Char)
    (hc : isWordChar c = false) : startsWithFold kd.toList (c :: t) = false := by
  have hk : ∃ p ps, kd.toList = p :: ps ∧ p.isAlpha = true := by
    simp only [joinKinds, List.mem_cons, List.not_mem_nil, or_false] at hkd
    rcases hkd with rfl | rfl | rfl | rfl <;> simp
  obtain ⟨p, ps, hps, hp⟩ := hk
  rw [hps, startsWithFold]
  cases hf : foldEq p c with
  | false => rfl
  | true => rw [isWordChar_of_foldEq hp hf] at hc; cases hc

theorem isWordChar_of_isBlank {c : Char} (h : isBlank c = true) : isWordChar c = false := by
  cases hw : isWordChar c with
  | false => rfl
  | true => rw [not_isBlank_of_isWordChar hw] at h; cases h

/-- No join starts in a run of blanks that no `JOIN` follows. -/
theorem joinAt_blanks {g rest : List Char} (hg : ∀ c ∈ g, isBlank c = true)
    (hq : joinTail (g ++ rest) = none) (prev : Option Char) {i : Nat} (hi : i < g.length) :
    joinAt (charBefore prev g i) ((g ++ rest).drop i) = none := by
  cases i with
  | zero =>
    -- at the first blank no kind is written, so the blanks themselves must lead to a `JOIN`
    obtain ⟨b, bs, rfl⟩ := List.exists_cons_of_length_pos hi
    have hb : isBlank b = true := hg b List.mem_cons_self
    cases h : joinAt (charBefore prev (b :: bs) 0) ((b :: bs ++ rest).drop 0) with
    | none => rfl
    | some x =>
      obtain ⟨-, k, hk, y, hy⟩ := joinAt_eq_some h
      rcases hk with rfl | ⟨kd, hkd, hs, rfl⟩
      · simp only [List.drop_zero, hq, reduceCtorEq] at hy
      · rw [List.drop_zero, List.cons_append,
          startsWithFold_kind_cons hkd _ (isWordChar_of_isBlank hb)] at hs
        cases hs
  | succ j =>
    -- between two blanks lies no word boundary
    apply joinAt_of_not_boundary
    have hj : j + 1 < (g ++ rest).length := by simp; omega
    rw [charBefore_succ (by omega), List.head?_drop, List.getElem?_eq_getElem hj,
      List.getElem_append_left (by omega)]
    exact isBoundary_same (by
      rw [isWordChar_of_isBlank (hg _ (List.getElem_mem _)),
        isWordChar_of_isBlank (hg _ (List.getElem_mem _))])

/-- No join starts in a word that ends where a word may, unless the word is a join kind and
what follows it leads to a `JOIN`. -/
theorem joinAt_word {w rest : List Char} (hw : IsWord w)
    (hk : ∀ kd ∈ joinKinds, FoldsTo kd w = true → joinTail rest = none) (hr : stopsWord rest = true)
    (prev : Option Char) {i : Nat} (hi : i < w.length) :
    joinAt (charBefore prev w i) ((w ++ rest).drop i) = none := by
  cases i with
  | zero =>
    cases h : joinAt (charBefore prev w 0) ((w ++ rest).drop 0) with
    | none => rfl
    | some x =>
      obtain ⟨-, k, hk', y, hy⟩ := joinAt_eq_some h
      rw [List.drop_zero] at hk' hy
      -- the kind, if any, ends inside the word, or with it and then no tail follows
      have hle : k < w.length ∨ (k = w.length ∧ joinTail rest = none) := by
        rcases hk' with rfl | ⟨kd, hkd, hs, rfl⟩
        · exact Or.inl hi
        · have hlen : kd.length ≤ w.length := by
            by_contra hlt
            rw [startsWithFold_append_of_lt (joinKinds_alpha kd hkd) hr
              (by rw [String.length_toList]; omega)] at hs
            cases hs
          rcases Nat.lt_or_eq_of_le hlen with hlt | heq
          · exact Or.inl hlt
          · rw [startsWithFold_append_of_le rest (by rw [String.length_toList]; omega)] at hs
            exact Or.inr ⟨heq, hk kd hkd (by simp [FoldsTo, heq, hs])⟩
      rcases hle with hin | ⟨rfl, hq⟩
      · obtain ⟨c, more, hd, hc⟩ := drop_append_of_lt_word rest hw.2 hin
        rw [hd] at hy
        exact absurd (joinAhead_of_joinTail hy) (not_joinAhead_cons more (not_isBlank_of_isWordChar hc))
      · rw [List.drop_left, hq] at hy
        cases hy
  | succ j =>
    -- inside a word lies no word boundary
    apply joinAt_of_not_boundary
    have hj : j + 1 < (w ++ rest).length := by simp; omega
    rw [charBefore_succ (by omega), List.head?_drop, List.getElem?_eq_getElem hj,
      List.getElem_append_left (by omega)]
    exact isBoundary_same (by rw [hw.2 _ (List.getElem_mem _), hw.2 _ (List.getElem_mem _)])

/-- A word that is no join kind starts no join. -/
theorem kindless {w rest : List Char} (hk : ∀ kd ∈ joinKinds, FoldsTo kd w = false) :
    ∀ kd ∈ joinKinds, FoldsTo kd w = true → joinTail rest = none := fun kd hkd hf => by
  rw [hk kd hkd] at hf
  cases hf

/-- A run of blanks that starts inside `p` ends inside it, when `p` does not end in a blank. -/
theorem blanks_inside {p rest : List Char} (hlast : ∀ c ∈ p.getLast?, isBlank c = false)
    {j b : Nat} (hj : j < p.length) (hall : ∀ c ∈ (p.drop j ++ rest).take b, isBlank c = true) :
    j + b < p.length := by
  by_contra hge
  obtain ⟨c, hc⟩ : ∃ c, p.getLast? = some c :=
    Option.isSome_iff_exists.mp (List.getLast?_isSome.mpr (List.ne_nil_of_length_pos (by omega)))
  have hmem : c ∈ (p.drop j ++ rest).take b := by
    rw [List.take_append, List.take_of_length_le (by simp; omega)]
    refine List.mem_append_left _ (List.mem_of_getLast? ?_)
    rw [List.getLast?_drop, if_neg (by omega), hc]
  have h1 := hall c hmem
  rw [hlast c hc] at h1
  cases h1

/-- A word ends where a blank follows it. -/
theorem endsWord_of_head? {l : List Char} {c : Char} (h : l.head? = some c)
    (hc : isBlank c = true) : endsWord l = true := by
  cases l with
  | nil => cases h
  | cons d t =>
    cases h
    simp [endsWord, isWordChar_of_isBlank hc]

/-- A word met after blanks that start inside `p` is a word of `p`, when `p` ends in a
character other than a blank and nothing or a blank follows it. -/
theorem wordAt_of_blanks {p rest : List Char} (hlast : ∀ c ∈ p.getLast?, isBlank c = false)
    (hr : stopsWord rest = true) {x : String} (hx : ∀ c ∈ x.toList, c.isAlpha = true)
    {j b : Nat} (hj : j < p.length) (hb : 0 < b)
    (hall : ∀ c ∈ (p.drop j ++ rest).take b, isBlank c = true)
    (hw : startsWithFold x.toList ((p.drop j ++ rest).drop b) = true)
    (he : endsWord ((p.drop j ++ rest).drop (b + x.length)) = true) :
    WordAt x p (j + b) := by
  have hm := blanks_inside hlast hj hall
  have e : (p.drop j ++ rest).drop b = p.drop (j + b) ++ rest := by
    rw [List.drop_append_of_le_length (by simp; omega), List.drop_drop]
  rw [e] at hw
  have hmx : j + b + x.length ≤ p.length := by
    by_contra hlt
    rw [startsWithFold_append_of_lt hx hr
      (by simp only [List.length_drop, String.length_toList]; omega)] at hw
    cases hw
  refine ⟨?_, ?_, ?_⟩
  · rwa [startsWithFold_append_of_le rest
      (by simp only [List.length_drop, String.length_toList]; omega)] at hw
  · -- the character before the word is the last of the blanks
    intro d hd
    rw [List.getLast?_take, if_neg (by omega), List.getElem?_eq_getElem (by omega),
      Option.some_or, Option.mem_some_iff] at hd
    subst hd
    apply hall
    rw [List.take_append_of_le_length (by simp; omega), List.mem_iff_getElem]
    refine ⟨b - 1, by simp; omega, ?_⟩
    simp only [List.getElem_take, List.getElem_drop]
    congr 1
    omega
  · -- what follows the word inside `p` follows it in the whole text
    have e2 : (p.drop j ++ rest).drop (b + x.length) = p.drop (j + b + x.length) ++ rest := by
      rw [List.drop_append_of_le_length (by simp; omega), List.drop_drop, ← Nat.add_assoc]
    rw [e2] at he
    cases hd : p.drop (j + b + x.length) with
    | nil => rfl
    | cons d t => simpa [hd, endsWord] using he

/-- No join starts in a piece that ends in a character other than a blank and holds no word
`JOIN`, where blanks or nothing follow it and no `JOIN` after blanks. -/
theorem joinAt_part {p rest : List Char} (hlast : ∀ c ∈ p.getLast?, isBlank c = false)
    (hp : ¬ HasWord "JOIN" p) (hhead : ∀ c ∈ rest.head?, isBlank c = true)
    (hq : ¬ JoinAhead rest) (prev : Option Char) {i : Nat} (hi : i < p.length) :
    joinAt (charBefore prev p i) ((p ++ rest).drop i) = none := by
  have hr : stopsWord rest = true := by
    cases rest with
    | nil => rfl
    | cons c t => exact stopsWord_of_isBlank t (hhead c rfl)
  cases h : joinAt (charBefore prev p i) ((p ++ rest).drop i) with
  | none => rfl
  | some x =>
    exfalso
    obtain ⟨-, k, hk, y, hy⟩ := joinAt_eq_some h
    have ha := joinAhead_of_joinTail hy
    rw [List.drop_drop] at ha
    by_cases hj : i + k < p.length
    · -- the blanks before `JOIN` start inside `p`, so they end inside it and `JOIN` is a
      -- word of `p`
      obtain ⟨b, hb, hall, hjoin, c, hc, hcb⟩ := ha
      rw [List.drop_append_of_le_length (Nat.le_of_lt hj)] at hall hjoin hc
      exact hp ⟨i + k + b, wordAt_of_blanks hlast hr (by simp) hj hb hall hjoin
        (endsWord_of_head? hc hcb)⟩
    · -- the kind reaches the end of `p`: it ends there, and what follows must lead to `JOIN`
      rcases hk with rfl | ⟨kd, hkd, hs, rfl⟩
      · omega
      · rw [List.drop_append_of_le_length (Nat.le_of_lt hi)] at hs
        by_cases heq : i + kd.length = p.length
        · rw [heq, List.drop_left] at ha
          exact hq ha
        · rw [startsWithFold_append_of_lt (joinKinds_alpha kd hkd) hr
            (by simp only [List.length_drop, String.length_toList]; omega)] at hs
          cases hs

-- ============================================================ a join as written

theorem clauseWords_alpha : ∀ x ∈ clauseWords, ∀ c ∈ x.toList, c.isAlpha = true := by
  simp [clauseWords]

/-- The condition of a join runs to the end of `c` when no clause word follows blanks inside
`c`, and one follows right after it or the text ends there. -/
theorem conditionLength_append {c rest : List Char} (hc : c ≠ [])
    (hin : ∀ i, 0 < i → i < c.length → clauseAhead ((c ++ rest).drop i) = false)
    (hend : rest = [] ∨ clauseAhead rest = true) :
    conditionLength (c ++ rest) = c.length := by
  induction c with
  | nil => exact absurd rfl hc
  | cons x xs ih =>
    cases xs with
    | nil =>
      rcases hend with rfl | h
      · rfl
      · simp [conditionLength, h]
    | cons y ys =>
      have htail : ∀ i, 0 < i → i < (y :: ys).length →
          clauseAhead (((y :: ys) ++ rest).drop i) = false := fun i hi hlt => by
        simpa using hin (i + 1) (by omega) (by simp at hlt ⊢; omega)
      have h1 : clauseAhead (y :: (ys ++ rest)) = false := by
        simpa using hin 1 (by omega) (by simp)
      rw [List.cons_append, conditionLength, ih (List.cons_ne_nil y ys) htail]
      simp [h1]

/-- No clause word follows blanks inside a text that holds none of them as a word and ends in
a character other than a blank. -/
theorem clauseAhead_inside {c rest : List Char} (hlast : ∀ d ∈ c.getLast?, isBlank d = false)
    (hr : stopsWord rest = true) (hw : ∀ x ∈ clauseWords, ¬ HasWord x c) {i : Nat}
    (hi : i < c.length) : clauseAhead ((c ++ rest).drop i) = false := by
  rw [List.drop_append_of_le_length (Nat.le_of_lt hi)]
  cases h : clauseAhead (c.drop i ++ rest) with
  | false => rfl
  | true =>
    exfalso
    simp only [clauseAhead, Bool.and_eq_true, decide_eq_true_eq, List.any_eq_true] at h
    obtain ⟨hb, x, hx, hs, he⟩ := h
    exact hw x hx ⟨_, wordAt_of_blanks hlast hr (clauseWords_alpha x hx) hi hb
      (all_take_spanLength _ _) hs he⟩

/-- A condition with no clause word of its own runs to where blanks and a clause word follow
it, or to the end of the text. -/
theorem conditionLength_of_clause {c rest : List Char} (hc : c ≠ [])
    (hlast : ∀ d ∈ c.getLast?, isBlank d = false) (hw : ∀ x ∈ clauseWords, ¬ HasWord x c)
    (hend : rest = [] ∨ clauseAhead rest = true) :
    conditionLength (c ++ rest) = c.length := by
  have hr : stopsWord rest = true := by
    rcases hend with rfl | h
    · rfl
    · simp only [clauseAhead, Bool.and_eq_true, decide_eq_true_eq] at h
      obtain ⟨d, t, rfl, hd⟩ := (spanLength_pos_iff isBlank rest).mp h.1
      exact stopsWord_of_isBlank t hd
  exact conditionLength_append hc (fun i _ hi => clauseAhead_inside hlast hr hw hi) hend

/-- The tail of a join as written: blanks, `JOIN`, blanks, the table, blanks, `ON`, blanks
and a condition that runs to its end. -/
theorem joinTail_written {J t O c rest : List Char} (g1 g2 g3 g4 : Gap)
    (hJ : Spelled "JOIN" J) (ht : IsWord t) (hO : Spelled "ON" O) (hc : c ≠ [])
    (hhead : ∀ d ∈ c.head?, isBlank d = false) (hlen : conditionLength (c ++ rest) = c.length) :
    joinTail (g1.chars ++ J ++ g2.chars ++ t ++ g3.chars ++ O ++ g4.chars ++ c ++ rest) =
      some (String.ofList t, String.ofList c, g1.chars.length + 4 + g2.chars.length +
        t.length + g3.chars.length + 2 + g4.chars.length + c.length) := by
  have hJu : IsUpperWord "JOIN" := by simp [IsUpperWord]
  have hOu : IsUpperWord "ON" := by simp [IsUpperWord]
  have hJw := hJ.isWord hJu
  have hOw := hO.isWord hOu
  have lJ : J.length = 4 := hJ.length_eq
  have lO : O.length = 2 := hO.length_eq
  have dJ : ∀ r, (J ++ r).drop 4 = r := fun r => by rw [← lJ, List.drop_left]
  have dO : ∀ r, (O ++ r).drop 2 = r := fun r => by rw [← lO, List.drop_left]
  have hcr : ∀ d ∈ (c ++ rest).head?, isBlank d = false := by
    obtain ⟨x, xs, rfl⟩ := List.exists_cons_of_ne_nil hc
    exact hhead
  have hne : (c ++ rest).isEmpty = false := by simp [hc]
  simp only [List.append_assoc]
  unfold joinTail
  simp only [g1.spanLength_append (hJw.head_not_blank _), List.drop_left,
    hJ.startsWithFold_append hJu, dJ, g2.spanLength_append (ht.head_not_blank _),
    spanLength_append_of_forall _ ht.2, g3.spanLength_word, Nat.add_zero,
    g3.spanLength_append (hOw.head_not_blank _), hO.startsWithFold_append hOu, dO,
    g4.spanLength_append hcr, hlen, List.take_left, hne, List.length_eq_zero_iff, g1.ne_nil,
    g2.ne_nil, g3.ne_nil, g4.ne_nil, ht.1]
  simp

-- ============================================================ pieces no join starts in

/-- No join of the text search starts in `p` when `rest` follows it, whatever comes before. -/
def NoJoinIn (p rest : List Char) : Prop :=
  ∀ prev i, i < p.length → joinAt (charBefore prev p i) ((p ++ rest).drop i) = none

/-- The search passes over a piece that no join starts in. -/
theorem NoJoinIn.joinsFrom {p rest : List Char} (h : NoJoinIn p rest) (prev : Option Char) :
    joinsFrom prev (p ++ rest) = joinsFrom (p.getLast?.or prev) rest :=
  joinsFrom_append_of_none (h prev)

theorem NoJoinIn.append {p q rest : List Char} (hp : NoJoinIn p (q ++ rest))
    (hq : NoJoinIn q rest) : NoJoinIn (p ++ q) rest := by
  intro prev i hi
  by_cases hip : i < p.length
  · have e : charBefore prev (p ++ q) i = charBefore prev p i := by
      simp [charBefore, List.take_append_of_le_length (Nat.le_of_lt hip)]
    rw [e, List.append_assoc]
    exact hp prev i hip
  · -- past `p`, the character before is counted from the end of `p`
    obtain ⟨j, rfl⟩ := Nat.exists_eq_add_of_le (Nat.le_of_not_lt hip)
    have e : charBefore prev (p ++ q) (p.length + j) = charBefore (p.getLast?.or prev) q j := by
      rw [charBefore, List.take_length_add_append, getLast?_append_or]
      rfl
    rw [e, List.append_assoc, List.drop_length_add_append]
    exact hq _ j (by simp at hi; omega)

theorem noJoinIn_nil (rest : List Char) : NoJoinIn [] rest := fun _ _ hi => absurd hi (by simp)

theorem noJoinIn_gap (g : Gap) {rest : List Char} (hq : joinTail (g.chars ++ rest) = none) :
    NoJoinIn g.chars rest :=
  fun prev _ hi => joinAt_blanks g.blank hq prev hi

theorem noJoinIn_word {w rest : List Char} (hw : IsWord w)
    (hk : ∀ kd ∈ joinKinds, FoldsTo kd w = true → joinTail rest = none) (hr : stopsWord rest = true) :
    NoJoinIn w rest :=
  fun prev _ hi => joinAt_word hw hk hr prev hi

theorem noJoinIn_part {p rest : List Char} (hlast : ∀ c ∈ p.getLast?, isBlank c = false)
    (hp : ¬ HasWord "JOIN" p) (hhead : ∀ c ∈ rest.head?, isBlank c = true)
    (hq : ¬ JoinAhead rest) : NoJoinIn p rest :=
  fun prev _ hi => joinAt_part hlast hp hhead hq prev hi

-- ============================================================ what leads to a JOIN

/-- A pattern that starts with a letter matches no text that starts outside words. -/
theorem startsWithFold_alpha_cons {x : List Char} (hx : ∀ p ∈ x, p.isAlpha = true) (hne : x ≠ [])
    {c : Char} (t : List Char) (hc : isWordChar c = false) : startsWithFold x (c :: t) = false := by
  obtain ⟨p, ps, rfl⟩ := List.exists_cons_of_ne_nil hne
  rw [startsWithFold]
  cases hf : foldEq p c with
  | false => rfl
  | true =>
    rw [isWordChar_of_foldEq (hx p List.mem_cons_self) hf] at hc
    cases hc

/-- Blanks that lead to a `JOIN` are all the blanks of a gap: the `JOIN` starts what follows. -/
theorem joinAhead_gap (g : Gap) {r : List Char} (hhead : ∀ c ∈ r.head?, isBlank c = false)
    (h : JoinAhead (g.chars ++ r)) :
    startsWithFold "JOIN".toList r = true ∧ ∃ c, (r.drop 4).head? = some c ∧ isBlank c = true := by
  obtain ⟨b, hb, hall, hjoin, c, hc, hcb⟩ := h
  rcases Nat.lt_trichotomy b g.chars.length with hlt | heq | hgt
  · -- `JOIN` cannot start on a blank of the gap
    obtain ⟨d, t, hd⟩ : ∃ d t, (g.chars ++ r).drop b = d :: t := by
      rw [List.drop_append_of_le_length (Nat.le_of_lt hlt)]
      obtain ⟨d, t, hdt⟩ := List.exists_cons_of_length_pos (l := g.chars.drop b) (by simp; omega)
      exact ⟨d, t ++ r, by rw [hdt, List.cons_append]⟩
    have hdb : isBlank d = true := by
      have hmem : d ∈ g.chars.drop b := by
        rw [List.drop_append_of_le_length (Nat.le_of_lt hlt)] at hd
        cases hgd : g.chars.drop b with
        | nil => simp at hgd; omega
        | cons e u => rw [hgd, List.cons_append, List.cons.injEq] at hd; rw [hd.1]; simp
      exact g.blank d (List.mem_of_mem_drop hmem)
    rw [hd, startsWithFold_alpha_cons (by simp) (by simp) t (isWordChar_of_isBlank hdb)] at hjoin
    cases hjoin
  · subst heq
    rw [List.drop_left] at hjoin
    rw [← List.drop_drop, List.drop_left] at hc
    exact ⟨hjoin, c, hc, hcb⟩
  · -- the blanks cannot reach past the gap into `r`
    obtain ⟨d, t, rfl⟩ : ∃ d t, r = d :: t := by
      cases r with
      | nil =>
        rw [List.append_nil, List.drop_eq_nil_of_le (by omega)] at hjoin
        cases hjoin
      | cons d t => exact ⟨d, t, rfl⟩
    have hmem : d ∈ (g.chars ++ d :: t).take b := by
      rw [List.take_append, List.take_of_length_le (by omega)]
      obtain ⟨m, hm⟩ := Nat.exists_eq_add_of_lt hgt
      refine List.mem_append_right _ ?_
      rw [show b - g.chars.length = m + 1 by omega]
      simp
    have := hall d hmem
    rw [hhead d rfl] at this
    cases this

/-- Blanks and a word other than `JOIN` lead to no join. -/
theorem not_joinAhead_gap_word (g : Gap) {w rest : List Char} (hw : IsWord w)
    (hj : FoldsTo "JOIN" w = false) (hr : stopsWord rest = true) :
    ¬ JoinAhead (g.chars ++ (w ++ rest)) := by
  intro h
  obtain ⟨hjoin, c, hc, hcb⟩ := joinAhead_gap g (hw.head_not_blank rest) h
  have h4 : 4 ≤ w.length := by
    by_contra hlt
    rw [startsWithFold_append_of_lt (by simp) hr (by simp; omega)] at hjoin
    cases hjoin
  rcases Nat.lt_or_eq_of_le h4 with hlt | heq
  · -- a longer word goes on with a word character after its first four letters
    obtain ⟨d, more, hd, hdw⟩ := drop_append_of_lt_word rest hw.2 hlt
    rw [hd, List.head?_cons, Option.some.injEq] at hc
    subst hc
    rw [not_isBlank_of_isWordChar hdw] at hcb
    cases hcb
  · rw [startsWithFold_append_of_le rest (by simp; omega)] at hjoin
    have hf : FoldsTo "JOIN" w = true := by
      simp only [FoldsTo, Bool.and_eq_true, beq_iff_eq]
      exact ⟨by rw [← heq]; rfl, hjoin⟩
    rw [hf] at hj
    cases hj

/-- Blanks and a text that holds no word `JOIN`, starts with no blank and ends with none, lead
to no join. -/
theorem not_joinAhead_gap_part (g : Gap) {p rest : List Char}
    (hhead : ∀ c ∈ p.head?, isBlank c = false) (hne : p ≠ [])
    (hp : ¬ HasWord "JOIN" p) (hr : stopsWord rest = true) :
    ¬ JoinAhead (g.chars ++ (p ++ rest)) := by
  intro h
  have hpr : ∀ c ∈ (p ++ rest).head?, isBlank c = false := by
    obtain ⟨x, xs, rfl⟩ := List.exists_cons_of_ne_nil hne
    exact hhead
  obtain ⟨hjoin, c, hc, hcb⟩ := joinAhead_gap g hpr h
  have h4 : 4 ≤ p.length := by
    by_contra hlt
    rw [startsWithFold_append_of_lt (by simp) hr (by simp; omega)] at hjoin
    cases hjoin
  apply hp
  refine ⟨0, ?_, by simp, ?_⟩
  · rwa [List.drop_zero, ← startsWithFold_append_of_le rest (by simp; omega)]
  · rw [List.drop_append_of_le_length h4] at hc
    show endsWord (p.drop 4) = true
    cases hd : p.drop 4 with
    | nil => rfl
    | cons d t => rw [hd] at hc; exact endsWord_of_head? hc hcb

-- ============================================================ a join found

/-- Where a join covering exactly `p` is found, the search goes on after `p`. -/
theorem joinsFrom_of_joinAt {prev : Option Char} {p rest : List Char} {j : Join} (hp : p ≠ [])
    (h : joinAt prev (p ++ rest) = some (j, p.length)) :
    joinsFrom prev (p ++ rest) = j :: joinsFrom p.getLast? rest := by
  obtain ⟨c, cs, rfl⟩ := List.exists_cons_of_ne_nil hp
  rw [List.cons_append] at h ⊢
  rw [joinsFrom, h]
  have htake : (cs ++ rest).take ((c :: cs).length - 1) = cs := by simp
  have hdrop : (cs ++ rest).drop ((c :: cs).length - 1) = rest := by simp
  simp only [htake, hdrop, List.getLast?_eq_some_getLast (List.cons_ne_nil c cs)]

/-- A join written with `JOIN` alone is found at the blanks before `JOIN`, after a word
character. -/
theorem joinAt_plain {d : Char} (hd : isWordChar d = true) {J t O c rest : List Char}
    (g1 g2 g3 g4 : Gap) (hJ : Spelled "JOIN" J) (ht : IsWord t) (hO : Spelled "ON" O)
    (hc : c ≠ []) (hhead : ∀ e ∈ c.head?, isBlank e = false)
    (hlen : conditionLength (c ++ rest) = c.length) :
    joinAt (some d) (g1.chars ++ J ++ g2.chars ++ t ++ g3.chars ++ O ++ g4.chars ++ c ++ rest) =
      some (⟨"INNER", String.ofList t, trim (String.ofList c)⟩, g1.chars.length + 4 +
        g2.chars.length + t.length + g3.chars.length + 2 + g4.chars.length + c.length) := by
  obtain ⟨b, bs, hb⟩ := List.exists_cons_of_ne_nil g1.ne_nil
  have hbb : isBlank b = true := g1.blank b (by simp [hb])
  have hsplit : g1.chars ++ J ++ g2.chars ++ t ++ g3.chars ++ O ++ g4.chars ++ c ++ rest =
      b :: (bs ++ J ++ g2.chars ++ t ++ g3.chars ++ O ++ g4.chars ++ c ++ rest) := by simp [hb]
  have hbound : isBoundary (some d) (some b) = true := by
    simp [isBoundary, hd, isWordChar_of_isBlank hbb]
  -- no kind is written on a blank, so the kind is the default
  have hfind : joinKinds.find? (fun k => startsWithFold k.toList
      (g1.chars ++ J ++ g2.chars ++ t ++ g3.chars ++ O ++ g4.chars ++ c ++ rest)) = none := by
    rw [List.find?_eq_none]
    intro kd hkd
    rw [hsplit, startsWithFold_alpha_cons (joinKinds_alpha kd hkd) (by
      simp only [joinKinds, List.mem_cons, List.not_mem_nil, or_false] at hkd
      rcases hkd with rfl | rfl | rfl | rfl <;> simp) _ (isWordChar_of_isBlank hbb)]
    simp
  unfold joinAt
  rw [hfind, hsplit, List.head?_cons, hbound, ← hsplit]
  simp only [Bool.not_true, Bool.false_eq_true, if_false, Option.map_none, Option.getD_none,
    List.drop_zero, joinTail_written g1 g2 g3 g4 hJ ht hO hc hhead hlen, Option.map_some,
    if_true, Nat.zero_add]

theorem joinKinds_upper : ∀ kd ∈ joinKinds, IsUpperWord kd := by
  simp [joinKinds, IsUpperWord]

/-- A join written with its kind is found at the kind, after a character outside words. -/
theorem joinAt_kind {prev : Option Char} (hprev : ∀ d ∈ prev, isWordChar d = false)
    {kd : String} (hkd : kd ∈ joinKinds) {K J t O c rest : List Char} (hK : Spelled kd K)
    (g1 g2 g3 g4 : Gap) (hJ : Spelled "JOIN" J) (ht : IsWord t) (hO : Spelled "ON" O)
    (hc : c ≠ []) (hhead : ∀ e ∈ c.head?, isBlank e = false)
    (hlen : conditionLength (c ++ rest) = c.length) :
    joinAt prev (K ++ (g1.chars ++ J ++ g2.chars ++ t ++ g3.chars ++ O ++ g4.chars ++ c ++ rest)) =
      some (⟨kd, String.ofList t, trim (String.ofList c)⟩, K.length + (g1.chars.length + 4 +
        g2.chars.length + t.length + g3.chars.length + 2 + g4.chars.length + c.length)) := by
  have hku := joinKinds_upper kd hkd
  have hKw := hK.isWord hku
  obtain ⟨b, bs, hb⟩ := List.exists_cons_of_ne_nil g1.ne_nil
  have hr : stopsWord (g1.chars ++ J ++ g2.chars ++ t ++ g3.chars ++ O ++ g4.chars ++ c ++ rest) =
      true := by
    have hsplit : g1.chars ++ J ++ g2.chars ++ t ++ g3.chars ++ O ++ g4.chars ++ c ++ rest =
        b :: (bs ++ J ++ g2.chars ++ t ++ g3.chars ++ O ++ g4.chars ++ c ++ rest) := by simp [hb]
    rw [hsplit]
    exact stopsWord_of_isBlank _ (g1.blank b (by simp [hb]))
  obtain ⟨a, as, ha⟩ := List.exists_cons_of_ne_nil hKw.1
  have hbound : isBoundary prev (some a) = true := by
    have hwa : isWordChar a = true := hKw.2 a (by simp [ha])
    cases prev with
    | none => simp [isBoundary, hwa]
    | some d => simp [isBoundary, hwa, hprev d rfl]
  -- the kinds are told apart by their spelling: the first that matches is the one written
  have hfind : joinKinds.find? (fun k => startsWithFold k.toList (K ++
      (g1.chars ++ J ++ g2.chars ++ t ++ g3.chars ++ O ++ g4.chars ++ c ++ rest))) = some kd := by
    rw [List.find?_congr (fun k hk => hK.startsWithFold_eq hku (joinKinds_upper k hk) hr)]
    simp only [joinKinds, List.mem_cons, List.not_mem_nil, or_false] at hkd
    rcases hkd with rfl | rfl | rfl | rfl <;> simp [joinKinds]
  have hlenK : kd.length = K.length := hK.length_eq.symm
  have hupper : upper (String.ofList K) = kd := by
    simp [upper, hK.upperChars_eq hku]
  have hne : K.length ≠ 0 := by simpa using hKw.1
  unfold joinAt
  rw [hfind, ha, List.cons_append, List.head?_cons, hbound, ← List.cons_append, ← ha]
  simp only [Bool.not_true, Bool.false_eq_true, if_false, Option.map_some, Option.getD_some,
    hlenK, List.drop_left, List.take_left, hupper, hne, joinTail_written g1 g2 g3 g4 hJ ht hO hc
    hhead hlen, if_false]

/-- Where a word other than `ON` follows the table, no join is found there: an alias between the
table and `ON` hides the join from the text search. -/
theorem joinTail_not_on {J t w rest : List Char} (g1 g2 g3 : Gap) (hJ : Spelled "JOIN" J)
    (ht : IsWord t) (hw : IsWord w) (hon : FoldsTo "ON" w = false) (hr : stopsWord rest = true) :
    joinTail (g1.chars ++ J ++ g2.chars ++ t ++ g3.chars ++ w ++ rest) = none := by
  have hJu : IsUpperWord "JOIN" := by simp [IsUpperWord]
  have hJw := hJ.isWord hJu
  have lJ : J.length = 4 := hJ.length_eq
  have dJ : ∀ r, (J ++ r).drop 4 = r := fun r => by rw [← lJ, List.drop_left]
  -- where `ON` matches the start of a longer word, no blank follows it
  have hb4 : startsWithFold "ON".toList (w ++ rest) = true →
      spanLength isBlank ((w ++ rest).drop 2) = 0 := by
    intro hs
    have h2 : 2 ≤ w.length := by
      by_contra hlt
      rw [startsWithFold_append_of_lt (by simp) hr (by simp; omega)] at hs
      cases hs
    have hlt : 2 < w.length := by
      rcases Nat.lt_or_eq_of_le h2 with h | h
      · exact h
      · rw [startsWithFold_append_of_le rest (by simp; omega)] at hs
        have hf : FoldsTo "ON" w = true := by
          simp only [FoldsTo, Bool.and_eq_true, beq_iff_eq]
          exact ⟨by rw [← h]; rfl, hs⟩
        rw [hf] at hon
        cases hon
    obtain ⟨d, more, hd, hdw⟩ := drop_append_of_lt_word rest hw.2 hlt
    rw [hd]
    simp [spanLength, not_isBlank_of_isWordChar hdw]
  simp only [List.append_assoc]
  unfold joinTail
  simp only [g1.spanLength_append (hJw.head_not_blank _), List.drop_left,
    hJ.startsWithFold_append hJu, dJ, g2.spanLength_append (ht.head_not_blank _),
    spanLength_append_of_forall _ ht.2, g3.spanLength_word, Nat.add_zero,
    g3.spanLength_append (hw.head_not_blank _), List.length_eq_zero_iff, g1.ne_nil, g2.ne_nil,
    g3.ne_nil, ht.1]
  cases hs : startsWithFold "ON".toList (w ++ rest) with
  | false => simp
  | true => simp [hb4 hs]

-- ============================================================ keyword phrases

/-- Blanks and a keyword phrase that does not start with `JOIN` lead to no join. -/
theorem not_joinAhead_gap_written (g : Gap) {k : String} {ks : List String} {s rest : List Char}
    (h : Written (k :: ks) s) (hk : IsUpperWord k) (hj : k ≠ "JOIN") (hr : stopsWord rest = true) :
    ¬ JoinAhead (g.chars ++ (s ++ rest)) := by
  have hf : ∀ {w : List Char}, Spelled k w → FoldsTo "JOIN" w = false := fun hw => by
    rw [hw.foldsTo hk, foldsTo_upper_eq (by simp [IsUpperWord]) hk]
    simpa using fun e => hj e.symm
  cases h with
  | single hs => exact not_joinAhead_gap_word g (hs.isWord hk) (hf hs) hr
  | @cons _ _ s' g' more hs hg hgb _ =>
    obtain ⟨b, bs, rfl⟩ := List.exists_cons_of_ne_nil hg
    rw [show s' ++ b :: bs ++ more ++ rest = s' ++ (b :: bs ++ more ++ rest) by simp]
    exact not_joinAhead_gap_word g (hs.isWord hk) (hf hs)
      (stopsWord_of_isBlank _ (hgb b List.mem_cons_self))

/-- No join starts in a keyword phrase none of whose words is a join kind, and whose words
after the first are not `JOIN`. -/
theorem Written.noJoinIn {ks : List String} {s rest : List Char} (h : Written ks s)
    (hks : ∀ k ∈ ks, IsUpperWord k) (hkind : ∀ k ∈ ks, k ∉ joinKinds) (hjoin : "JOIN" ∉ ks.tail)
    (hr : stopsWord rest = true) : NoJoinIn s rest := by
  induction h with
  | @single k s hs =>
    have hk := hks k List.mem_cons_self
    refine noJoinIn_word (hs.isWord hk) (kindless fun kd hkd => ?_) hr
    rw [hs.foldsTo hk, foldsTo_upper_eq (joinKinds_upper kd hkd) hk]
    exact decide_eq_false fun e => hkind k List.mem_cons_self (e ▸ hkd)
  | @cons k ks s g more hs hg hgb hw ih =>
    have hk := hks k List.mem_cons_self
    obtain ⟨b, bs, rfl⟩ := List.exists_cons_of_ne_nil hg
    have hbb : isBlank b = true := hgb b List.mem_cons_self
    -- the first word, then the blanks, then the rest of the phrase
    have h1 : NoJoinIn s ((b :: bs) ++ (more ++ rest)) := by
      refine noJoinIn_word (hs.isWord hk) (kindless fun kd hkd => ?_) (stopsWord_of_isBlank _ hbb)
      rw [hs.foldsTo hk, foldsTo_upper_eq (joinKinds_upper kd hkd) hk]
      exact decide_eq_false fun e => hkind k List.mem_cons_self (e ▸ hkd)
    have hks' : ∀ k' ∈ ks, IsUpperWord k' := fun k' h' => hks k' (List.mem_cons_of_mem k h')
    have h2 : NoJoinIn (b :: bs) (more ++ rest) := by
      obtain ⟨k', ks', rfl⟩ := List.exists_cons_of_ne_nil hw.ne_nil
      refine noJoinIn_gap ⟨b :: bs, hg, hgb⟩ (joinTail_eq_none (not_joinAhead_gap_written _ hw
        (hks' k' List.mem_cons_self) ?_ hr))
      rintro rfl
      exact hjoin (by simp)
    have h3 : NoJoinIn more rest := by
      refine ih hks' (fun k' h' => hkind k' (List.mem_cons_of_mem k h')) ?_
      obtain ⟨k', ks', rfl⟩ := List.exists_cons_of_ne_nil hw.ne_nil
      intro hm
      exact hjoin (by simp only [List.tail_cons] at hm ⊢; exact List.mem_cons_of_mem k' hm)
    exact (h1.append h2).append h3

end QueryDiagram.Query
