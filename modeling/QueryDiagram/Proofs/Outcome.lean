import QueryDiagram.Query.Parse
import QueryDiagram.Diagram.Build
import QueryDiagram.Diagram.Render

/-!
How reading, building and rendering end.

Reading a query has three outcomes and they are told apart by the text alone: a blank text
is refused as empty; a text in which some unsupported construct occurs is refused with the
first such construct in the order of report (`Feature.rank`); any other text is read. The
search for a construct is a scan over positions, and `existsAt_iff` says what it finds: a
position of the text at which the construct's test holds, given the character before it.

The clause readers, the builder and the renderer are total, so nothing else can end a run:
the diagram of what is read always exists, and rendering it gives either an SVG text or one
of the render errors, whatever the layout engine does. What rendering returns starts with
`<svg`, since every answer is checked for that last.

Main statement: `parse_outcome_contract`.
-/

namespace QueryDiagram

open Text

-- ============================================================ searching positions

namespace Feature

/-- The character before position `i` of `cs`, when the text before `cs` ends with `prev`. -/
def charBefore (prev : Option Char) (cs : List Char) (i : Nat) : Option Char :=
  (cs.take i).getLast?.or prev

/-- The scan finds a construct exactly when its test holds at some position. -/
theorem existsAt_iff (test : Option Char → List Char → Bool) (prev : Option Char)
    (cs : List Char) :
    existsAt test prev cs = true ↔
      ∃ i ≤ cs.length, test (charBefore prev cs i) (cs.drop i) = true := by
  induction cs generalizing prev with
  | nil => simp [existsAt, charBefore]
  | cons c cs ih =>
    simp only [existsAt, Bool.or_eq_true, ih]
    constructor
    · rintro (h | ⟨i, hi, h⟩)
      · exact ⟨0, Nat.zero_le _, by simpa [charBefore] using h⟩
      · -- a hit in the tail is a hit one position further on
        refine ⟨i + 1, by simpa using hi, ?_⟩
        simpa [charBefore, List.getLast?_cons] using h
    · rintro ⟨_ | i, hi, h⟩
      · exact Or.inl (by simpa [charBefore] using h)
      · refine Or.inr ⟨i, by simpa using hi, ?_⟩
        simpa [charBefore, List.getLast?_cons] using h

-- ============================================================ the constructs in order

/-- The test that finds a construct at a position. -/
def pattern : Feature → Option Char → List Char → Bool
  | .commonTable => commonTableAt
  | .union => unionAt
  | .window => windowAt
  | .fromSubquery => fromSubqueryAt
  | .whereSubquery => whereSubqueryAt

/-- The place of a construct in the order of report. -/
def rank : Feature → Nat
  | .commonTable => 0
  | .union => 1
  | .window => 2
  | .fromSubquery => 3
  | .whereSubquery => 4

/-- The construct occurs in `cs`: its test holds at some position. -/
def OccursIn (f : Feature) (cs : List Char) : Prop :=
  ∃ i ≤ cs.length, f.pattern (charBefore none cs i) (cs.drop i) = true

/-- `f` is the construct reported for `cs`: it occurs, and none reported before it does. -/
def FirstIn (f : Feature) (cs : List Char) : Prop :=
  f.OccursIn cs ∧ ∀ g : Feature, g.rank < f.rank → ¬ g.OccursIn cs

theorem occursIn_iff (f : Feature) (cs : List Char) :
    f.OccursIn cs ↔ existsAt f.pattern none cs = true :=
  (existsAt_iff _ _ _).symm

/-- A statement about every construct is one about each of the five. -/
theorem forall_iff (P : Feature → Prop) :
    (∀ g, P g) ↔
      P .commonTable ∧ P .union ∧ P .window ∧ P .fromSubquery ∧ P .whereSubquery := by
  constructor
  · intro h
    exact ⟨h _, h _, h _, h _, h _⟩
  · rintro ⟨h1, h2, h3, h4, h5⟩ g
    cases g <;> assumption

/-- The search reports the first construct, in the order of report, that occurs. -/
theorem findIn_eq_some_iff (cs : List Char) (f : Feature) :
    findIn cs = some f ↔ f.FirstIn cs := by
  simp only [FirstIn, occursIn_iff, forall_iff, rank, pattern]
  -- the five scans decide everything; each combination is a closed computation
  cases h1 : existsAt commonTableAt none cs <;>
  cases h2 : existsAt unionAt none cs <;>
  cases h3 : existsAt windowAt none cs <;>
  cases h4 : existsAt fromSubqueryAt none cs <;>
  cases h5 : existsAt whereSubqueryAt none cs <;>
  cases f <;> simp [findIn, tests, h1, h2, h3, h4, h5]

end Feature

-- ============================================================ rendering

/-- Comparing by equality, `startsWithBy` is the prefix test. -/
theorem Text.startsWithBy_beq_iff (pat cs : List Char) :
    startsWithBy (· == ·) pat cs = true ↔ pat <+: cs := by
  induction pat generalizing cs with
  | nil => simp [startsWithBy]
  | cons p ps ih =>
    cases cs with
    | nil => simp [startsWithBy]
    | cons c cs => simp [startsWithBy, ih, List.cons_prefix_cons]

/-- A cut that is returned starts with `<svg`. -/
theorem cutSvg_ok_prefix {cs : List Char} {start : Nat} {r : String}
    (h : cutSvg cs start = .ok r) : "<svg".toList <+: r.toList := by
  simp only [cutSvg] at h
  split at h
  · split at h
    · rename_i hs
      cases h
      simpa using (startsWithBy_beq_iff _ _).mp hs
    · cases h
  · cases h

/-- An answer read as SVG starts with `<svg`: every other reading is an error. -/
theorem readSvg_ok_prefix {s r : String} (h : readSvg s = .ok r) :
    "<svg".toList <+: r.toList := by
  simp only [readSvg] at h
  split at h
  · cases h
  · split at h
    · cases h
    · split at h
      · exact cutSvg_ok_prefix h
      · split at h <;> cases h

/-- A rendering that succeeds gives a text starting with `<svg`, whatever the layout
engine did. -/
theorem Diagram.render_ok_prefix {μ : Type} [Mark μ] {g : Diagram μ}
    {layout : String → LayoutOutcome} {r : String}
    (h : (g.render layout).result = .ok r) : "<svg".toList <+: r.toList := by
  simp only [Diagram.render] at h
  split at h
  · cases h
  · split at h
    · cases h
    · cases h
    · exact readSvg_ok_prefix h

-- ============================================================ reading

namespace Query

/-- Reading is refused as empty exactly when the trimmed text is empty. -/
theorem parse_eq_empty_iff (sql : String) :
    parse sql = .error .empty ↔ trim sql = "" := by
  simp only [parse, String.isEmpty_iff]
  split
  · simp_all
  · rename_i h
    simp only [h, iff_false]
    split <;> simp

/-- Reading is refused for `f` exactly when the text is not blank and `f` is the first
construct, in the order of report, that occurs in its upper case. -/
theorem parse_eq_unsupported_iff (sql : String) (f : Feature) :
    parse sql = .error (.unsupported f) ↔
      trim sql ≠ "" ∧ f.FirstIn (upperChars (trim sql).toList) := by
  rw [← Feature.findIn_eq_some_iff]
  simp only [parse, String.isEmpty_iff, Feature.find?]
  split
  · simp_all
  · rename_i h
    simp only [ne_eq, h, not_false_eq_true, true_and]
    split <;> simp_all

/-- A text that is not blank and holds no unsupported construct is read. -/
theorem parse_ok_of_none (sql : String) (hs : trim sql ≠ "")
    (hf : ∀ f : Feature, ¬ f.OccursIn (upperChars (trim sql).toList)) :
    ∃ q, parse sql = .ok q := by
  have hnone : Feature.find? (trim sql) = none := by
    cases h : Feature.find? (trim sql) with
    | none => rfl
    | some f => exact absurd ((Feature.findIn_eq_some_iff _ f).mp h).1 (hf f)
  simp only [parse, String.isEmpty_iff, hs, if_false, hnone]
  exact ⟨_, rfl⟩

/-- The outcome of a run: reading is refused as empty exactly for a blank text; otherwise it
is refused for a construct exactly when one occurs in the upper-cased text, and the
construct named is the first in the order of report; otherwise it succeeds. The diagram of
what is read then renders to a text starting with `<svg` or to a render error, for every
behaviour of the layout engine. -/
theorem parse_outcome_contract (sql : String) :
    (parse sql = .error .empty ↔ trim sql = "") ∧
    (∀ f : Feature, parse sql = .error (.unsupported f) ↔
      trim sql ≠ "" ∧ f.FirstIn (upperChars (trim sql).toList)) ∧
    (trim sql ≠ "" → (∀ f : Feature, ¬ f.OccursIn (upperChars (trim sql).toList)) →
      ∃ q, parse sql = .ok q ∧
        ∀ (layout : String → LayoutOutcome) (r : String),
          ((Diagram.ofQuery q).render layout).result = .ok r →
            "<svg".toList <+: r.toList) := by
  refine ⟨parse_eq_empty_iff sql, parse_eq_unsupported_iff sql, ?_⟩
  intro hs hf
  obtain ⟨q, hq⟩ := parse_ok_of_none sql hs hf
  exact ⟨q, hq, fun _ _ h => Diagram.render_ok_prefix h⟩

end Query

end QueryDiagram
