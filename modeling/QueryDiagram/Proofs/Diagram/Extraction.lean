import QueryDiagram.Proofs.Outcome
import QueryDiagram.Proofs.Query.Keywords

/-!
Cutting the SVG element out of a layout engine's answer.

Reading an answer cuts from its first `<svg` to the end of its last `</svg>`. Neither tag
overlaps itself (`Unbordered`), so in a text `pre ++ "<svg" ++ …` whose `pre` holds no `<svg`
the first search lands at the end of `pre` (`indexOf?_append_of_unbordered`), and in a text
`… ++ "</svg>" ++ post` whose `post` holds no `</svg>` the last search lands before `post`
(`lastIndexOf?_append_of_unbordered`).

Where a closing tag follows the first opening tag, the answer reads `pre ++ element ++ post`,
with no `<svg` in `pre` and no `</svg>` in `post`, and the cut is the element; it gets the SVG
namespace on its start tag when no `xmlns=` stands anywhere in it (`readSvg_element`), so what is
read starts with `<svg` and ends with `</svg>`. The namespace test looks at the whole element: an
`xmlns=` on a child leaves the start tag without one.

An answer without a closing tag is not refused for that: the missing tag is taken to end after
the fifth character (`readSvg_unclosed`). When the first `<svg` starts the answer or follows one
character, the cut is that tag and at most one character more, read as a start tag with the SVG
namespace; a later `<svg` leaves a cut too short to start with `<svg`, or none at all.

Main statements: `readSvg_element`, `readSvg_unclosed`, and both at the answers `<svg>` and
`<svg><g xmlns="x"/></svg>` for the diagram of one table (`render_accepts_unclosed_svg`).
-/

namespace QueryDiagram

open Text

-- ============================================================ searching

theorem Text.occursIn_eq_true_iff (pat cs : List Char) : occursIn pat cs = true ↔ pat <:+: cs := by
  induction cs with
  | nil => cases pat <;> simp [occursIn, indexOf?, findBy]
  | cons c cs ih =>
    rw [List.infix_cons_iff, ← ih, ← startsWithBy_beq_iff]
    simp only [occursIn, indexOf?, findBy]
    split <;> simp_all

/-- A search past a text where `pat` starts nowhere is a search in what follows it. -/
theorem Text.findBy_append {pat a b : List Char}
    (ha : ∀ i < a.length, startsWithBy (· == ·) pat ((a ++ b).drop i) = false) :
    findBy (· == ·) pat (a ++ b) = (findBy (· == ·) pat b).map (· + a.length) := by
  induction a with
  | nil => simp
  | cons c a ih =>
    have h0 : startsWithBy (· == ·) pat (c :: (a ++ b)) = false := by simpa using ha 0 (by simp)
    rw [List.cons_append, findBy, if_neg (by simp [h0]),
      ih fun i hi => by simpa using ha (i + 1) (by simp; omega), Option.map_map]
    simp [Function.comp_def, Nat.add_assoc]

theorem Text.findBy_of_prefix {pat b : List Char} (hpat : pat ≠ []) (h : pat <+: b) :
    findBy (· == ·) pat b = some 0 := by
  cases b with
  | nil => exact absurd (List.prefix_nil.1 h) hpat
  | cons c b => rw [findBy, if_pos ((startsWithBy_beq_iff _ _).2 h)]

/-- No proper end of `pat` starts it: two of its occurrences cannot overlap. -/
def Text.Unbordered (pat : List Char) : Prop :=
  ∀ k < pat.length, 0 < k → ¬ pat.drop k <+: pat

/-- An unbordered `pat` that follows a text holding none starts nowhere inside that text. -/
theorem Text.not_prefix_drop_of_unbordered {pat a c : List Char} (hp : Unbordered pat)
    (ha : ¬ pat <:+: a) {i : Nat} (hi : i < a.length) : ¬ pat <+: (a ++ (pat ++ c)).drop i := by
  intro h
  rw [List.drop_append_of_le_length (Nat.le_of_lt hi), List.prefix_iff_eq_take,
    List.take_append] at h
  by_cases hlen : pat.length ≤ (a.drop i).length
  · -- the occurrence lies inside `a`
    apply ha
    have h0 : pat.length - (a.length - i) = 0 := by
      simp only [List.length_drop] at hlen
      omega
    have hpre : pat <+: a.drop i := by
      rw [List.prefix_iff_eq_take]
      simpa [h0] using h
    exact hpre.isInfix.trans (List.drop_suffix i a).isInfix
  · -- the occurrence runs into `pat`, whose end would then start it
    set k := (a.drop i).length with hk
    have hk0 : 0 < k := by simp [hk]; omega
    have hklt : k < pat.length := by omega
    rw [List.take_of_length_le (by omega), List.take_append_of_le_length (by omega)] at h
    apply hp k hklt hk0
    have hdrop : pat.drop k = pat.take (pat.length - k) := by
      conv_lhs => rw [h]
      rw [hk, List.drop_left]
    rw [hdrop]
    exact List.take_prefix _ _

/-- A text that holds no unbordered `pat` and is followed by `pat` first holds it there. -/
theorem Text.indexOf?_append_of_unbordered {pat a c : List Char} (hne : pat ≠ [])
    (hp : Unbordered pat) (ha : ¬ pat <:+: a) : indexOf? pat (a ++ (pat ++ c)) = some a.length := by
  have hbefore : ∀ i < a.length, startsWithBy (· == ·) pat ((a ++ (pat ++ c)).drop i) = false := by
    intro i hi
    rw [Bool.eq_false_iff, ne_eq, startsWithBy_beq_iff]
    exact not_prefix_drop_of_unbordered hp ha hi
  rw [indexOf?, findBy_append hbefore, findBy_of_prefix hne (List.prefix_append _ _)]
  simp

theorem Text.occursIn_eq_false_of_length_lt {pat cs : List Char} (h : cs.length < pat.length) :
    occursIn pat cs = false := by
  rw [Bool.eq_false_iff, ne_eq, occursIn_eq_true_iff]
  exact fun hin => absurd hin.length_le (by omega)

theorem Text.indexOf?_eq_none_of_not_infix {pat cs : List Char} (h : ¬ pat <:+: cs) :
    indexOf? pat cs = none := by
  rw [← Option.not_isSome_iff_eq_none]
  exact fun hs => h ((occursIn_eq_true_iff _ _).1 hs)

/-- A text that holds `pat` last before a part that holds none has it last there. -/
theorem Text.lastIndexOf?_append_of_unbordered {pat front post : List Char} (hne : pat ≠ [])
    (hp : Unbordered pat.reverse) (hpost : ¬ pat <:+: post) :
    lastIndexOf? pat (front ++ (pat ++ post)) = some front.length := by
  have hrev : (front ++ (pat ++ post)).reverse =
      post.reverse ++ (pat.reverse ++ front.reverse) := by simp
  have hclean : ¬ pat.reverse <:+: post.reverse := by
    rw [List.reverse_infix]
    exact hpost
  rw [lastIndexOf?, hrev, indexOf?_append_of_unbordered (by simpa using hne) hp hclean]
  simp only [Option.map_some, List.length_append, List.length_reverse]
  congr 1
  omega

theorem Text.lastIndexOf?_eq_none_of_not_infix {pat cs : List Char} (h : ¬ pat <:+: cs) :
    lastIndexOf? pat cs = none := by
  have hrev : ¬ pat.reverse <:+: cs.reverse := by
    rw [List.reverse_infix]
    exact h
  simp [lastIndexOf?, indexOf?_eq_none_of_not_infix hrev]

theorem unbordered_svgOpen : Unbordered "<svg".toList := by
  simp only [Unbordered]
  decide +kernel

-- the closing tag is searched for in the reversed text
theorem unbordered_svgClose : Unbordered "</svg>".toList.reverse := by
  simp only [Unbordered]
  decide +kernel

-- ============================================================ the namespace

/-- A text that starts with `<svg` gets the namespace right after those four characters, unless it
holds `xmlns=` anywhere. -/
theorem addNamespace_open (rest : List Char) :
    addNamespace ("<svg".toList ++ rest) =
      if occursIn "xmlns=".toList ("<svg".toList ++ rest) then "<svg".toList ++ rest
      else svgOpenWithNamespace.toList ++ rest := by
  have hfirst : indexOf? "<svg".toList ("<svg".toList ++ rest) = some 0 :=
    findBy_of_prefix (by simp) (List.prefix_append _ _)
  rw [addNamespace, hfirst]
  split <;> simp

/-- A text shorter than `<svg` holds neither `xmlns=` nor `<svg`, and stays as it is. -/
theorem addNamespace_of_short {cs : List Char} (h : cs.length < 4) : addNamespace cs = cs := by
  have hx : occursIn "xmlns=".toList cs = false := occursIn_eq_false_of_length_lt (by simp; omega)
  have hs : indexOf? "<svg".toList cs = none :=
    indexOf?_eq_none_of_not_infix fun hin => absurd hin.length_le (by simp; omega)
  rw [addNamespace, hx, hs]
  rfl

-- ============================================================ reading an answer

/-- An answer that holds `<svg` is not blank. -/
theorem trimChars_isEmpty_of_open {pre rest : List Char} :
    (trimChars (pre ++ ("<svg".toList ++ rest))).isEmpty = false := by
  rw [List.isEmpty_eq_false_iff, ne_eq, trimChars_eq_nil_iff]
  intro h
  have : isBlank '<' = true := h '<' (by simp)
  exact absurd this (by decide)

/-- An answer that mentions no error and holds `<svg` first after `pre` is cut from there. -/
theorem readSvg_open {pre rest : List Char} (hpre : ¬ "<svg".toList <:+: pre)
    (hok : occursIn "error".toList (lowerChars (pre ++ ("<svg".toList ++ rest))) = false) :
    readSvg (String.ofList (pre ++ ("<svg".toList ++ rest))) =
      cutSvg (pre ++ ("<svg".toList ++ rest)) pre.length := by
  simp only [readSvg, String.toList_ofList, trimChars_isEmpty_of_open, hok, Bool.false_eq_true,
    if_false]
  rw [indexOf?_append_of_unbordered (by simp) unbordered_svgOpen hpre]

/-- Where `</svg>` follows the first `<svg`, reading cuts out the element from the first opening
to the last closing tag and gives its start tag the SVG namespace unless the element holds
`xmlns=` anywhere. -/
theorem readSvg_element (pre mid post : List Char) (hpre : ¬ "<svg".toList <:+: pre)
    (hpost : ¬ "</svg>".toList <:+: post)
    (hok : occursIn "error".toList
      (lowerChars (pre ++ ("<svg".toList ++ (mid ++ ("</svg>".toList ++ post))))) = false) :
    readSvg (String.ofList (pre ++ ("<svg".toList ++ (mid ++ ("</svg>".toList ++ post))))) =
      .ok (String.ofList
        (if occursIn "xmlns=".toList ("<svg".toList ++ (mid ++ "</svg>".toList))
          then "<svg".toList ++ (mid ++ "</svg>".toList)
          else svgOpenWithNamespace.toList ++ (mid ++ "</svg>".toList))) := by
  set front := pre ++ ("<svg".toList ++ mid) with hfront
  have htext : pre ++ ("<svg".toList ++ (mid ++ ("</svg>".toList ++ post))) =
      front ++ ("</svg>".toList ++ post) := by simp [hfront]
  have hclose : lastIndexOf? "</svg>".toList (front ++ ("</svg>".toList ++ post)) =
      some front.length :=
    lastIndexOf?_append_of_unbordered (by simp) unbordered_svgClose hpost
  -- the cut runs from the end of `pre` to the end of the last closing tag
  have hcut : ((front ++ ("</svg>".toList ++ post)).take (front.length + 6)).drop pre.length =
      "<svg".toList ++ (mid ++ "</svg>".toList) := by
    rw [← List.append_assoc, List.take_left' (by simp), hfront]
    simp
  have hopen : ∀ r, startsWithBy (· == ·) "<svg".toList (addNamespace ("<svg".toList ++ r)) =
      true := fun r => by
    rw [startsWithBy_beq_iff, addNamespace_open]
    split
    · exact List.prefix_append _ _
    · exact ⟨_, rfl⟩
  rw [readSvg_open hpre hok, htext, cutSvg]
  simp only [hclose, Option.map_some, Option.getD_some]
  have hlt : pre.length < front.length + 6 := by simp [hfront]; omega
  rw [if_pos hlt, hcut, if_pos (hopen _), addNamespace_open]

/-- Without a closing tag anywhere, the cut ends after the fifth character: a first `<svg` at the
start or after one character is read as a start tag with the SVG namespace and at most one
character after it; a later one is refused. -/
theorem readSvg_unclosed (pre rest : List Char) (hpre : ¬ "<svg".toList <:+: pre)
    (hnone : ¬ "</svg>".toList <:+: pre ++ ("<svg".toList ++ rest))
    (hok : occursIn "error".toList (lowerChars (pre ++ ("<svg".toList ++ rest))) = false) :
    readSvg (String.ofList (pre ++ ("<svg".toList ++ rest))) =
      if pre.length ≤ 1 then .ok (String.ofList (svgOpenWithNamespace.toList ++
        rest.take (1 - pre.length)))
      else if pre.length < 5 then .error (.notSvg (String.ofList ("<svg".toList.take (5 - pre.length))))
      else .error .unextractable := by
  rw [readSvg_open hpre hok, cutSvg, lastIndexOf?_eq_none_of_not_infix hnone]
  simp only [Option.map_none, Option.getD_none]
  by_cases h5 : pre.length < 5
  · -- the cut is what stands of the opening tag and the rest before the fifth character
    have hcut : ((pre ++ ("<svg".toList ++ rest)).take 5).drop pre.length =
        ("<svg".toList ++ rest).take (5 - pre.length) := by
      rw [List.take_append, List.drop_append_of_le_length (by simp; omega)]
      simp
    rw [if_pos h5, hcut]
    by_cases h1 : pre.length ≤ 1
    · have hshort : ("<svg".toList ++ rest).take (5 - pre.length) =
          "<svg".toList ++ rest.take (1 - pre.length) := by
        rw [show 5 - pre.length = "<svg".toList.length + (1 - pre.length) by simp; omega,
          List.take_length_add_append]
      have hns : addNamespace ("<svg".toList ++ rest.take (1 - pre.length)) =
          svgOpenWithNamespace.toList ++ rest.take (1 - pre.length) := by
        rw [addNamespace_open, occursIn_eq_false_of_length_lt (by simp; omega)]
        rfl
      have hstart : startsWithBy (· == ·) "<svg".toList
          (svgOpenWithNamespace.toList ++ rest.take (1 - pre.length)) = true := by
        rw [startsWithBy_beq_iff]
        exact ⟨_, rfl⟩
      rw [hshort, hns, if_pos hstart, if_pos h1]
    · have hshort : ("<svg".toList ++ rest).take (5 - pre.length) =
          "<svg".toList.take (5 - pre.length) := by
        rw [List.take_append, show 5 - pre.length - "<svg".toList.length = 0 by simp; omega,
          List.take_zero, List.append_nil]
      have hlen : ("<svg".toList.take (5 - pre.length)).length < 4 := by simp; omega
      have hstart : startsWithBy (· == ·) "<svg".toList ("<svg".toList.take (5 - pre.length)) =
          false := by
        rw [Bool.eq_false_iff, ne_eq, startsWithBy_beq_iff]
        exact fun hp => absurd hp.length_le (by simp; omega)
      rw [hshort, addNamespace_of_short hlen, hstart, if_neg Bool.false_ne_true, if_neg h1,
        if_pos h5]
  · rw [if_neg h5, if_neg (by omega), if_neg h5]

-- ============================================================ rendering

/-- A diagram with tables renders to what reading the engine's answer gives. -/
theorem Diagram.render_output {μ : Type} [Mark μ] {g : Diagram μ} (hg : g.nodes ≠ [])
    {layout : String → LayoutOutcome} {s : String} (hl : layout g.dotSource = .output s) :
    (g.render layout).result = readSvg s := by
  have hne : g.nodes.isEmpty = false := List.isEmpty_eq_false_iff.2 hg
  simp only [Diagram.render, hne, Bool.false_eq_true, if_false, hl]

/-- The diagram of one table renders from the answer `<svg>`, which closes nothing, to a start
tag alone; and from an answer whose child names a namespace, to an element whose start tag names
none. -/
theorem render_accepts_unclosed_svg :
    (((Diagram.empty : Diagram Bool).addTable "t").render fun _ => .output "<svg>").result =
      .ok "<svg xmlns=\"http://www.w3.org/2000/svg\">" ∧
    (((Diagram.empty : Diagram Bool).addTable "t").render
        fun _ => .output "<svg><g xmlns=\"x\"/></svg>").result =
      .ok "<svg><g xmlns=\"x\"/></svg>" := by
  have hg : ((Diagram.empty : Diagram Bool).addTable "t").nodes ≠ [] := by
    simp [Diagram.addTable, Diagram.empty, Diagram.names]
  refine ⟨?_, ?_⟩
  · rw [@Diagram.render_output Bool _ _ hg (fun _ => .output "<svg>") "<svg>" rfl]
    have h := readSvg_unclosed [] ['>'] (by decide +kernel) (by decide +kernel) (by decide +kernel)
    simpa [svgOpenWithNamespace] using h
  · rw [@Diagram.render_output Bool _ _ hg (fun _ => .output "<svg><g xmlns=\"x\"/></svg>")
      "<svg><g xmlns=\"x\"/></svg>" rfl]
    have h := readSvg_element [] "><g xmlns=\"x\"/>".toList [] (by decide +kernel)
      (by decide +kernel) (by decide +kernel)
    rw [if_pos (by decide +kernel)] at h
    simpa using h

end QueryDiagram
