import QueryDiagram.Proofs.Refused
import QueryDiagram.Proofs.Query.Output

/-!
How the conditions of a `WHERE` clause are cut and keyed.

The clause is cut at its connectives: blanks, `AND` or `OR` in any letter case, blanks
(`connectiveLength_written`). Where no connective starts the current piece grows
(`cutAt_append_of_noConnective`), and a connective closes it (`cutAt_connective`), so a text with
no connective is one piece and a connective splits the pieces around it
(`pieces_of_noConnective`, `pieces_append_connective`). The cut looks at nothing but the text:
the `AND` of `BETWEEN … AND …` and an `AND` inside a quoted literal cut as well.

The keys are the words standing before a full stop and a word character (`qualifiersOf_word_dot`),
whatever the word holds and wherever it stands: a number with a fraction gives its whole part as
a key, and a quoted literal holding a full stop gives a key too. With no key the clause is kept
whole under `_global` (`filtersIn_unqualified`); otherwise each key stands once, and under it
stand, once each, the trimmed pieces it qualifies (`filtersIn_qualified`), so a piece that
qualifies nothing stands under no key (`parse_filters_follow_the_text`).
-/

namespace QueryDiagram.Query

open Sql Text

-- ============================================================ cutting at connectives

theorem cutAt_nil (piece : List Char) : cutAt piece [] = [piece.reverse] := by
  rw [cutAt]

theorem cutAt_cons_of_none {piece : List Char} {c : Char} {cs : List Char}
    (h : connectiveLength (c :: cs) = none) : cutAt piece (c :: cs) = cutAt (c :: piece) cs := by
  rw [cutAt, h]

theorem cutAt_cons_of_some {piece : List Char} {c : Char} {cs : List Char} {n : Nat}
    (h : connectiveLength (c :: cs) = some n) :
    cutAt piece (c :: cs) = piece.reverse :: cutAt [] (cs.drop (n - 1)) := by
  rw [cutAt, h]

/-- No connective starts inside `p` when `rest` follows it. -/
def NoConnectiveIn (p rest : List Char) : Prop :=
  ∀ i < p.length, connectiveLength ((p ++ rest).drop i) = none

/-- Where no connective starts, the text joins the current piece. -/
theorem cutAt_append_of_noConnective {p rest : List Char} (h : NoConnectiveIn p rest)
    (piece : List Char) : cutAt piece (p ++ rest) = cutAt (p.reverse ++ piece) rest := by
  induction p generalizing piece with
  | nil => rfl
  | cons c p ih =>
    have h0 : connectiveLength (c :: (p ++ rest)) = none := by simpa using h 0 (by simp)
    have hp : NoConnectiveIn p rest := fun i hi => by simpa using h (i + 1) (by simp; omega)
    rw [List.cons_append, cutAt_cons_of_none h0, ih hp]
    simp

/-- A connective closes the current piece and is left out. -/
theorem cutAt_connective {s rest : List Char} (hs : connectiveLength (s ++ rest) = some s.length)
    (hne : s ≠ []) (piece : List Char) : cutAt piece (s ++ rest) = piece.reverse :: cutAt [] rest := by
  obtain ⟨c, s', rfl⟩ := List.exists_cons_of_ne_nil hne
  rw [List.cons_append] at hs ⊢
  rw [cutAt_cons_of_some hs, List.length_cons, Nat.add_sub_cancel, List.drop_left]

/-- A text in which no connective starts is one piece. -/
theorem pieces_of_noConnective {p : List Char} (h : NoConnectiveIn p []) : pieces p = [p] := by
  have := cutAt_append_of_noConnective h []
  simpa [pieces, cutAt_nil] using this

/-- A connective splits the pieces: those of `p s rest` are `p` and those of `rest`. -/
theorem pieces_append_connective {p s rest : List Char} (hp : NoConnectiveIn p (s ++ rest))
    (hs : connectiveLength (s ++ rest) = some s.length) (hne : s ≠ []) :
    pieces (p ++ (s ++ rest)) = p :: pieces rest := by
  rw [pieces, cutAt_append_of_noConnective hp, cutAt_connective hs hne, List.append_nil,
    List.reverse_reverse, pieces]

/-- Blanks, `AND` or `OR` in any letter case, and blanks make a connective, whatever stands
around them. -/
theorem connectiveLength_written {k : String} (hk : k = "AND" ∨ k = "OR") (g1 : Gap)
    {w : List Char} (hw : Spelled k w) (g2 : Gap) {rest : List Char}
    (hr : ∀ c ∈ rest.head?, isBlank c = false) :
    connectiveLength (g1.chars ++ (w ++ (g2.chars ++ rest))) =
      some (g1.chars.length + w.length + g2.chars.length) := by
  have hku : IsUpperWord k := by rcases hk with rfl | rfl <;> simp [IsUpperWord]
  have hb : spanLength isBlank (g1.chars ++ (w ++ (g2.chars ++ rest))) = g1.chars.length :=
    g1.spanLength_append (Feature.Spelled.head_not_blank hku hw _)
  have hb0 : g1.chars.length ≠ 0 := by simpa using g1.ne_nil
  have hb2 : spanLength isBlank (g2.chars ++ rest) = g2.chars.length := g2.spanLength_append hr
  have hg2 : g2.chars.length > 0 := List.length_pos_iff.2 g2.ne_nil
  -- the word after the blanks spells `k`, so `k`'s test takes it with the blanks after it
  have hs := Spelled.startsWithFold_append hku hw (g2.chars ++ rest)
  have hd : (w ++ (g2.chars ++ rest)).drop k.length = g2.chars ++ rest :=
    List.drop_left' hw.length_eq
  unfold connectiveLength
  simp only [hb, List.drop_left, hb0, if_false]
  rcases hk with rfl | rfl
  · rw [if_pos hs, hd, hb2, if_pos hg2, ← hw.length_eq]
    rfl
  · -- a spelling of `OR` is no spelling of `AND`, as the blank after it ends the word
    have hstop : stopsWord (g2.chars ++ rest) = true := by
      obtain ⟨c, g, hcg⟩ := List.exists_cons_of_ne_nil g2.ne_nil
      rw [hcg, List.cons_append]
      exact stopsWord_of_isBlank g (g2.blank c (by simp [hcg]))
    have hand : startsWithFold "AND".toList (w ++ (g2.chars ++ rest)) = false := by
      rw [Spelled.startsWithFold_eq hku hw (by simp [IsUpperWord]) hstop]
      simp
    rw [if_neg (by rw [hand]; decide), if_pos hs, hd, hb2, if_pos hg2, ← hw.length_eq]
    rfl

-- ============================================================ keys

/-- A character that is no word character is passed over by the search for keys. -/
theorem qualifiersOf_nonword {c : Char} (hc : isWordChar c = false) (cs : List Char) :
    qualifiersOf (c :: cs) = qualifiersOf cs := by
  have h0 : spanLength isWordChar (c :: cs) = 0 := by simp [spanLength, hc]
  rw [qualifiersOf]
  split
  · rw [if_neg (by simp [h0])]
  · rfl

/-- A word before a full stop and a word character is a key, whatever characters it has, digits
included; the search goes on past the word after the full stop. -/
theorem qualifiersOf_word_dot {w : List Char} (hw : IsWord w) {d : Char}
    (hd : isWordChar d = true) (rest : List Char) :
    qualifiersOf (w ++ '.' :: d :: rest) =
      String.ofList w :: qualifiersOf (rest.drop (spanLength isWordChar rest)) := by
  have hsp : spanLength isWordChar (w ++ '.' :: d :: rest) = w.length := by
    rw [spanLength_append_of_forall _ hw.2]
    simp [spanLength, show isWordChar '.' = false by decide]
  have hdrop : (w ++ '.' :: d :: rest).drop w.length = '.' :: d :: rest := List.drop_left
  obtain ⟨c, w', rfl⟩ := List.exists_cons_of_ne_nil hw.1
  rw [List.cons_append] at hsp hdrop ⊢
  rw [qualifiersOf]
  split
  · rename_i d' rest' h
    rw [hsp, hdrop] at h
    obtain ⟨rfl, rfl⟩ : d = d' ∧ rest = rest' := by simpa using h
    rw [if_pos (by simp [hsp, hd]), hsp, ← List.cons_append, List.take_left]
  · rename_i h
    rw [hsp] at h
    exact absurd hdrop (h _ _)

-- ============================================================ the filters

/-- The clause the filters are read from: the texts of the `WHERE` clause's tokens, joined by
blanks and trimmed. -/
def whereClause (ts : List Token) : List Char :=
  trimChars (" ".intercalate (whereTexts false ts)).toList

/-- A clause with no key is kept whole under `_global`. -/
theorem filtersIn_unqualified {ts : List Token} (hw : whereTexts false ts ≠ [])
    (hq : qualifiers (whereClause ts) = []) :
    filtersIn ts = [("_global", [String.ofList (whereClause ts)])] := by
  rw [filtersIn]
  split
  · contradiction
  · dsimp only
    rw [← whereClause, hq]

theorem nodup_eraseDups {α : Type} [BEq α] [LawfulBEq α] : (l : List α) → l.eraseDups.Nodup
  | [] => List.nodup_nil
  | a :: as => by
    rw [List.eraseDups_cons]
    have ih := nodup_eraseDups (as.filter fun b => !b == a)
    refine List.nodup_cons.2 ⟨fun h => ?_, ih⟩
    rw [List.mem_eraseDups, List.mem_filter] at h
    simp at h
termination_by l => l.length
decreasing_by exact Nat.lt_succ_of_le (List.length_filter_le _ _)

theorem nodup_sortedKeys (ks : List String) : (sortedKeys ks).Nodup :=
  (List.mergeSort_perm _ _).nodup_iff.2 (nodup_eraseDups ks)

theorem mem_sortedKeys {k : String} {ks : List String} : k ∈ sortedKeys ks ↔ k ∈ ks := by
  rw [sortedKeys, List.mem_mergeSort, List.mem_eraseDups]

/-- With a key in the clause, each key stands once, and under it stand, once each, the trimmed
pieces of the clause in which it is a key. -/
theorem filtersIn_qualified {ts : List Token} (hw : whereTexts false ts ≠ [])
    (hq : qualifiers (whereClause ts) ≠ []) :
    ((filtersIn ts).map (·.1)).Nodup ∧
      (∀ k, k ∈ (filtersIn ts).map (·.1) ↔ k ∈ qualifiers (whereClause ts)) ∧
      ∀ kf ∈ filtersIn ts, kf.2.Nodup ∧ ∀ f, f ∈ kf.2 ↔
        ∃ p ∈ pieces (whereClause ts), kf.1 ∈ qualifiers (trimChars p) ∧
          f = String.ofList (trimChars p) := by
  -- the filters are the keyed lists of the branch with keys
  have hf : filtersIn ts = (sortedKeys (qualifiers (whereClause ts))).map fun k =>
      (k, ((((pieces (whereClause ts)).map trimChars).filter
        fun p => (qualifiers p).contains k).map String.ofList).eraseDups) := by
    rw [filtersIn]
    split
    · contradiction
    · dsimp only
      rw [← whereClause]
      split
      · contradiction
      · rfl
  have hkeys : (filtersIn ts).map (·.1) = sortedKeys (qualifiers (whereClause ts)) := by
    simp [hf, Function.comp_def]
  refine ⟨hkeys ▸ nodup_sortedKeys _, fun k => by rw [hkeys, mem_sortedKeys], ?_⟩
  intro kf hkf
  rw [hf, List.mem_map] at hkf
  obtain ⟨k, -, rfl⟩ := hkf
  refine ⟨nodup_eraseDups _, fun f => ?_⟩
  simp only [List.mem_eraseDups, List.mem_map, List.mem_filter, List.contains_iff_mem]
  constructor
  · rintro ⟨_, ⟨⟨p, hp, rfl⟩, hk⟩, rfl⟩
    exact ⟨p, hp, hk, rfl⟩
  · rintro ⟨p, hp, hk, rfl⟩
    exact ⟨_, ⟨⟨p, hp, rfl⟩, hk⟩, rfl⟩

/-- The clause is cut at the `AND` of a `BETWEEN`; a number with a fraction and a quoted literal
holding a full stop give keys; and a condition that qualifies nothing is dropped when another
qualifies a table. -/
theorem parse_filters_follow_the_text :
    ((parse "SELECT * FROM t WHERE t.a BETWEEN 1 AND 2").map (·.filters)).toOption =
      some [("t", ["t . a   BETWEEN   1"])] ∧
    ((parse "SELECT * FROM t WHERE a > 1.5").map (·.filters)).toOption =
      some [("1", ["a   >   1.5"])] ∧
    ((parse "SELECT * FROM t WHERE a = 'u.v'").map (·.filters)).toOption =
      some [("u", ["a   =   'u.v'"])] ∧
    ((parse "SELECT * FROM t WHERE t.a = 1 AND b = 2").map (·.filters)).toOption =
      some [("t", ["t . a   =   1"])] := by
  refine ⟨?_, ?_, ?_, ?_⟩ <;> decide +kernel

end QueryDiagram.Query
