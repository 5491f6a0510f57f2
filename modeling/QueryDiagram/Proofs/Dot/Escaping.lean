import Mathlib.Data.List.Induction
import QueryDiagram.Proofs.Dot.Labels

/-!
Escaped labels under DOT quoting.

A node's label is escaped (`escapeLabel`) before `quote` writes it. Escaping can be undone: read
left to right, a backslash pair stands for one backslash and a backslash before a quote for the
quote (`unescapeLabel_escaped`). Quoting adds a backslash before a quote exactly when the run of
backslashes before it is even, so it leaves a text as it is exactly when every quote follows an
odd run (`escapeQuotes_eq_self_iff`). In an escaped label every quote does
(`oddRun_of_escaped`), and the label ends with an even run of backslashes, also before a final
line feed (`endsWithOddBackslashes_escaped`), so quoting it never warns.

Main statement: `escapeLabel_survives_quoting`.
-/

namespace QueryDiagram.Dot

-- ============================================================ decoding

/-- Reads an escaped label back: a backslash pair stands for one backslash, a backslash before a
quote for the quote, and any other character for itself. -/
def unescapeLabel : List Char → List Char
  | [] => []
  | '\\' :: '\\' :: r => '\\' :: unescapeLabel r
  | '\\' :: '"' :: r => '"' :: unescapeLabel r
  | c :: r => c :: unescapeLabel r

theorem unescapeLabel_cons {c : Char} (h : c ≠ '\\') (r : List Char) :
    unescapeLabel (c :: r) = c :: unescapeLabel r := by
  conv_lhs => unfold unescapeLabel
  split <;> simp_all

/-- Escaping is undone exactly. -/
theorem unescapeLabel_escaped (cs : List Char) :
    unescapeLabel (cs.flatMap escapeLabelChar) = cs := by
  induction cs with
  | nil => rfl
  | cons c cs ih =>
    by_cases h₁ : c = '\\'
    · subst c
      simp [escapeLabelChar, unescapeLabel, ih]
    by_cases h₂ : c = '"'
    · subst c
      simp [escapeLabelChar, unescapeLabel, ih]
    · have hc : escapeLabelChar c = [c] := by simp [escapeLabelChar, h₁, h₂]
      rw [List.flatMap_cons, hc, List.singleton_append, unescapeLabel_cons h₁, ih]

-- ============================================================ runs of backslashes

theorem trailingBackslashes_concat (cs : List Char) (c : Char) :
    trailingBackslashes (cs ++ [c]) = if c = '\\' then trailingBackslashes cs + 1 else 0 := by
  by_cases h : c = '\\' <;> simp [trailingBackslashes, h]

theorem trailingBackslashes_replicate (n : Nat) :
    trailingBackslashes (List.replicate n '\\') = n := by
  induction n with
  | zero => rfl
  | succ n ih => rw [List.replicate_succ', trailingBackslashes_concat, if_pos rfl, ih]

/-- A character other than a backslash ends every run before it. -/
theorem trailingBackslashes_append_cons {c : Char} (h : c ≠ '\\') (xs p : List Char) :
    trailingBackslashes (xs ++ c :: p) = trailingBackslashes p := by
  induction p using List.reverseRecOn with
  | nil => simp [h, trailingBackslashes]
  | append_singleton p d ih =>
    rw [← List.cons_append, ← List.append_assoc, trailingBackslashes_concat,
      trailingBackslashes_concat, ih]

-- ============================================================ quoting a text

/-- A quote in `c :: cs` is its first character or a quote in `cs`. -/
theorem forall_quote_cons {P : List Char → Prop} {c : Char} {cs : List Char} :
    (∀ p q, c :: cs = p ++ '"' :: q → P p) ↔
      (c = '"' → P []) ∧ ∀ p q, cs = p ++ '"' :: q → P (c :: p) := by
  constructor
  · intro h
    exact ⟨fun hc => h [] cs (by simp [hc]), fun p q hcs => h (c :: p) q (by simp [hcs])⟩
  · rintro ⟨h₁, h₂⟩ p q hpq
    rcases List.cons_eq_append_iff.1 hpq with ⟨rfl, hq⟩ | ⟨p', rfl, hcs⟩
    · exact h₁ (List.cons.inj hq).1.symm
    · exact h₂ p' q hcs

theorem escapeQuotes_other {c : Char} (h₁ : c ≠ '"') (h₂ : c ≠ '\\') (run : Nat)
    (cs : List Char) : escapeQuotes run (c :: cs) = c :: escapeQuotes 0 cs := by
  conv_lhs => unfold escapeQuotes
  split <;> simp_all

/-- Quoting leaves a text as it is exactly when every quote in it follows an odd run of
backslashes, counting the `run` backslashes that stand before the text. -/
theorem escapeQuotes_eq_self_iff (run : Nat) (cs : List Char) :
    escapeQuotes run cs = cs ↔
      ∀ p q, cs = p ++ '"' :: q → trailingBackslashes (List.replicate run '\\' ++ p) % 2 = 1 := by
  induction cs generalizing run with
  | nil => simp [escapeQuotes]
  | cons c cs ih =>
    rw [forall_quote_cons]
    -- after any character but a backslash the count starts again
    have hrestart : ∀ {d : Char}, d ≠ '\\' →
        ((∀ p q, cs = p ++ '"' :: q →
          trailingBackslashes (List.replicate run '\\' ++ d :: p) % 2 = 1) ↔
          escapeQuotes 0 cs = cs) := fun hd => by
      rw [ih 0]
      simp only [List.replicate_zero, List.nil_append, trailingBackslashes_append_cons hd]
    by_cases hq : c = '"'
    · subst c
      rw [hrestart (by decide)]
      rcases Nat.mod_two_eq_zero_or_one run with hr | hr <;>
        simp [escapeQuotes, hr, trailingBackslashes_replicate]
    by_cases hb : c = '\\'
    · subst c
      have hrun : ∀ p, List.replicate run '\\' ++ '\\' :: p = List.replicate (run + 1) '\\' ++ p :=
        fun p => by simp [List.replicate_succ']
      simp only [hrun, ← ih (run + 1)]
      simp [escapeQuotes]
    · rw [hrestart hb, escapeQuotes_other hq hb]
      simp [hq]

-- ============================================================ escaped labels

/-- In an escaped label every quote follows an odd run of backslashes. -/
theorem oddRun_of_escaped {cs p q : List Char} (h : cs.flatMap escapeLabelChar = p ++ '"' :: q) :
    trailingBackslashes p % 2 = 1 := by
  have hodd := (escapeQuotes_eq_self_iff 0 _).1 (escapeQuotes_escaped cs (rfl : 0 % 2 = 0)) p q h
  simpa using hodd

/-- An escaped label ends with an even run of backslashes. -/
theorem trailingBackslashes_escaped (cs : List Char) :
    trailingBackslashes (cs.flatMap escapeLabelChar) % 2 = 0 := by
  induction cs using List.reverseRecOn with
  | nil => rfl
  | append_singleton cs c ih =>
    rw [List.flatMap_append, List.flatMap_singleton]
    by_cases h₁ : c = '\\'
    · subst c
      have hsplit : cs.flatMap escapeLabelChar ++ escapeLabelChar '\\' =
          cs.flatMap escapeLabelChar ++ ['\\'] ++ ['\\'] := by simp [escapeLabelChar]
      rw [hsplit, trailingBackslashes_concat, trailingBackslashes_concat]
      simp only [if_true]
      omega
    by_cases h₂ : c = '"'
    · subst c
      have hsplit : cs.flatMap escapeLabelChar ++ escapeLabelChar '"' =
          cs.flatMap escapeLabelChar ++ ['\\'] ++ ['"'] := by simp [escapeLabelChar]
      rw [hsplit, trailingBackslashes_concat]
      simp
    · have hc : escapeLabelChar c = [c] := by simp [escapeLabelChar, h₁, h₂]
      rw [hc, trailingBackslashes_concat, if_neg h₁]

/-- An escaped label does not end with an odd run of backslashes, also not before a final line
feed. -/
theorem endsWithOddBackslashes_escaped (cs : List Char) :
    endsWithOddBackslashes (cs.flatMap escapeLabelChar) = false := by
  rcases List.eq_nil_or_concat cs with rfl | ⟨cs', c, rfl⟩
  · rfl
  rw [endsWithOddBackslashes, trailingBackslashes_escaped]
  simp only [List.concat_eq_append, List.flatMap_append, List.flatMap_singleton]
  -- only an escaped line feed ends with a line feed, and an escaped label stands before it
  by_cases hn : c = '\n'
  · subst c
    have hE : escapeLabelChar '\n' = ['\n'] := rfl
    simp [hE, trailingBackslashes_escaped cs']
  · have hlast : (escapeLabelChar c).getLast? ≠ some '\n' := by
      by_cases h₁ : c = '\\'
      · subst c
        simp [escapeLabelChar]
      by_cases h₂ : c = '"'
      · subst c
        simp [escapeLabelChar]
      · simp [escapeLabelChar, h₁, h₂, hn]
    have hne : escapeLabelChar c ≠ [] := by
      unfold escapeLabelChar
      split_ifs <;> simp
    simp [hlast, hne]

/-- A node's label survives quoting: read back it is the label; every quote in it follows an odd
run of backslashes, so quoting adds no backslash; it ends with no odd run, so quoting does not
warn and, where it quotes, puts the escaped label in quotes as it is. -/
theorem escapeLabel_survives_quoting (s : String) :
    unescapeLabel (escapeLabel s).toList = s.toList ∧
    (∀ p q, (escapeLabel s).toList = p ++ '"' :: q → trailingBackslashes p % 2 = 1) ∧
    escapeQuotes 0 (escapeLabel s).toList = (escapeLabel s).toList ∧
    endsWithOddBackslashes (escapeLabel s).toList = false ∧
    quoteWarns (escapeLabel s) = false ∧
    quote (escapeLabel s) =
      if standsBare (escapeLabel s) then escapeLabel s else "\"" ++ escapeLabel s ++ "\"" := by
  have hesc : (escapeLabel s).toList = s.toList.flatMap escapeLabelChar := by simp [escapeLabel]
  have hfix := escapeQuotes_escaped s.toList (rfl : 0 % 2 = 0)
  have hend := endsWithOddBackslashes_escaped s.toList
  refine ⟨?_, fun p q h => oddRun_of_escaped (hesc ▸ h), ?_, ?_, ?_, ?_⟩
  · rw [hesc]
    exact unescapeLabel_escaped _
  · rw [hesc]
    exact hfix
  · rw [hesc]
    exact hend
  · simp [quoteWarns, hesc, hend]
  · rw [quote, hesc, hfix, ← hesc, String.ofList_toList]

end QueryDiagram.Dot
