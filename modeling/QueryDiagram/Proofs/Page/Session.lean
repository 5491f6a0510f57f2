import Mathlib.Data.List.Induction
import QueryDiagram.Page.Script
import QueryDiagram.Proofs.Outcome
import QueryDiagram.Proofs.Query.Keywords

/-!
The visualizer page over a session.

A session is a sequence of visits to the page from a fresh session. The page keeps the text of
the query box, and the query and the picture it drew last. A visit *draws* when Visualize is
pressed without Clear on a text that reads as a query whose diagram renders (`Visit.Draws`);
Clear forgets everything.

Each visit is one of three kinds (`visit_cases`): it clears, it draws, or it leaves the query
and the picture as they were. From that, by induction over the visits, the session after any
visits is tracked by them (`Tracks`): the box holds the text `boxAfter` gives; a query is held
exactly when a picture is; and the query and the picture held are those of the latest visit
since the last Clear that drew (`LatestDrawing`). What the page shows follows from what it
holds: the picture and the panel of its query exactly when a picture is held.

A visualization that fails reports one error and changes nothing but the text of the box.

Main statements: `session_invariant`, over every visit of every session, and
`failed_visualize_keeps_drawing`.
-/

namespace QueryDiagram.Page

open Text

-- ============================================================ drawing a text

/-- Visualizing `text` with the layout engine `layout` draws the picture `svg` of the query
`q`: the text reads as `q` and the diagram of `q` renders to `svg`. -/
structure Drawn (text : String) (layout : String → LayoutOutcome) (q : Query) (svg : String) :
    Prop where
  parse : Query.parse text = .ok q
  render : ((Diagram.ofQuery q).render layout).result = .ok svg

/-- A text draws at most one query and picture. -/
theorem Drawn.unique {text : String} {layout : String → LayoutOutcome} {q q' : Query}
    {svg svg' : String} (h : Drawn text layout q svg) (h' : Drawn text layout q' svg') :
    q = q' ∧ svg = svg' := by
  have hq : q = q' := by simpa [h.parse] using h'.parse
  subst hq
  exact ⟨rfl, by simpa [h.render] using h'.render⟩

/-- A text that draws is not empty. -/
theorem Drawn.ne_empty {text : String} {layout : String → LayoutOutcome} {q : Query}
    {svg : String} (h : Drawn text layout q svg) : text ≠ "" := by
  rintro rfl
  have hparse := h.parse
  rw [(Query.parse_eq_empty_iff "").2 rfl] at hparse
  cases hparse

/-- A drawn picture starts with `<svg`. -/
theorem Drawn.starts_svg {text : String} {layout : String → LayoutOutcome} {q : Query}
    {svg : String} (h : Drawn text layout q svg) : "<svg".toList <+: svg.toList :=
  Diagram.render_ok_prefix h.render

/-- A text starting with `<svg` passes the page's two checks on a picture: it is not blank and
starts with `<svg`. -/
theorem checks_of_starts_svg {svg : String} (h : "<svg".toList <+: svg.toList) :
    (trim svg).isEmpty = false ∧ startsWithBy (· == ·) "<svg".toList svg.toList = true := by
  refine ⟨?_, (startsWithBy_beq_iff _ _).2 h⟩
  -- the text holds a `<`, which is not blank, so trimming leaves something
  have hlt : '<' ∈ svg.toList := h.subset (by decide)
  have hne : trimChars svg.toList ≠ [] := fun h0 =>
    absurd (trimChars_eq_nil_iff.1 h0 '<' hlt) (by decide)
  simpa [trim, String.isEmpty_iff, String.ofList_eq_empty_iff] using hne

-- ============================================================ visualizing

section visualize

variable (s : Session) {text : String} {layout : String → LayoutOutcome}

theorem visualize_of_parse_error {e : QueryError} (h : Query.parse text = .error e) :
    visualize s text layout = ([.ofText "error" (readFailure e)], s) := by
  simp [visualize, h]

theorem visualize_of_render_error {q : Query} {e : RenderError} (hq : Query.parse text = .ok q)
    (h : ((Diagram.ofQuery q).render layout).result = .error e) :
    visualize s text layout = ([.ofText "error" ("Rendering error: " ++ e.message)], s) := by
  simp [visualize, hq, h]

/-- A text that draws is kept with its picture: the page's checks on the picture never
fail. -/
theorem visualize_of_drawn {q : Query} {svg : String} (h : Drawn text layout q svg) :
    visualize s text layout = ([], { s with lastParsed := some q, lastSvg := some svg }) := by
  obtain ⟨hblank, hstart⟩ := checks_of_starts_svg h.starts_svg
  simp only [visualize, h.parse, h.render, hblank, hstart]
  rfl

/-- A text that does not draw leaves the session as it was and reports errors only. -/
theorem visualize_of_not_drawn (h : ∀ q svg, ¬ Drawn text layout q svg) :
    (visualize s text layout).2 = s ∧
      ∀ c ∈ (visualize s text layout).1, c.name = "error" := by
  cases hq : Query.parse text with
  | error e => simp [visualize_of_parse_error s hq, Call.ofText]
  | ok q =>
    cases hr : ((Diagram.ofQuery q).render layout).result with
    | error e => simp [visualize_of_render_error s hq hr, Call.ofText]
    | ok svg => exact absurd ⟨hq, hr⟩ (h q svg)

end visualize

-- ============================================================ the buttons

section respond

variable (s : Session) {v : Visit}

/-- Visualize on a text that draws keeps the query and its picture. -/
theorem respond_of_drawn (hv : v.visualize = true) {q : Query} {svg : String}
    (h : Drawn s.sqlInput v.layout q svg) :
    respond s v = ([], { s with lastParsed := some q, lastSvg := some svg }) := by
  have hne : s.sqlInput.isEmpty = false := by simpa [String.isEmpty_iff] using h.ne_empty
  simp [respond, hv, hne, visualize_of_drawn s h]

/-- Without a drawing, the buttons leave the session as it was and report errors and warnings
only. -/
theorem respond_of_not_drawn
    (h : v.visualize = true → ∀ q svg, ¬ Drawn s.sqlInput v.layout q svg) :
    (respond s v).2 = s ∧ ∀ c ∈ (respond s v).1, c.name = "error" ∨ c.name = "warning" := by
  unfold respond
  cases hv : v.visualize
  · simp
  · by_cases hne : s.sqlInput.isEmpty = true
    · simp [hne, Call.ofText]
    · obtain ⟨hs, hc⟩ := visualize_of_not_drawn s (h hv)
      simp only [hne, Bool.not_true, Bool.false_eq_true, if_false]
      exact ⟨hs, fun c hmem => .inl (hc c hmem)⟩

end respond

-- ============================================================ what a visit emits

/-- A visit with Clear: the page up to the buttons and the request to run again, then the page
of a fresh session with nothing pressed. -/
theorem visit_of_clear (s : Session) {v : Visit} (h : v.clear = true) :
    s.visit v = (heading ++ controls s.sqlInput ++ [⟨"rerun", [], []⟩] ++
      (heading ++ controls "" ++ footer), {}) := by
  simp [Session.visit, execute, h, respond, drawing]

/-- A visit without Clear: the page up to the buttons, what the buttons report, the picture
held and the footer; the session is the one the buttons leave once the text is entered. -/
theorem visit_of_not_clear (s : Session) {v : Visit} (h : v.clear = false) :
    s.visit v =
      (heading ++ controls s.sqlInput ++
          (respond { s with sqlInput := v.text.getD s.sqlInput } v).1 ++
          drawing (respond { s with sqlInput := v.text.getD s.sqlInput } v).2 ++ footer,
        (respond { s with sqlInput := v.text.getD s.sqlInput } v).2) := by
  simp [Session.visit, execute, h]

/-- A visit draws when Visualize is pressed without Clear on a text, entered or already in the
box `shown`, that draws. -/
def Visit.Draws (v : Visit) (shown : String) (q : Query) (svg : String) : Prop :=
  v.clear = false ∧ v.visualize = true ∧ Drawn (v.text.getD shown) v.layout q svg

/-- A visit clears the session, or draws and keeps the drawing, or keeps the drawing there
was. In every case the box holds the text entered, or keeps its own, unless it is cleared. -/
theorem visit_cases (s : Session) (v : Visit) :
    (v.clear = true ∧ (s.visit v).2 = {}) ∨
    (∃ q svg, v.Draws s.sqlInput q svg ∧
      (s.visit v).2 = ⟨v.text.getD s.sqlInput, some q, some svg⟩) ∨
    (v.clear = false ∧ (∀ q svg, ¬ v.Draws s.sqlInput q svg) ∧
      (s.visit v).2 = { s with sqlInput := v.text.getD s.sqlInput }) := by
  cases hc : v.clear
  · rw [visit_of_not_clear s hc]
    by_cases hd : ∃ q svg, v.Draws s.sqlInput q svg
    · obtain ⟨q, svg, hd⟩ := hd
      refine .inr (.inl ⟨q, svg, hd, ?_⟩)
      rw [respond_of_drawn _ hd.2.1 hd.2.2]
    · refine .inr (.inr ⟨rfl, fun q svg h => hd ⟨q, svg, h⟩, ?_⟩)
      exact (respond_of_not_drawn _ fun hv q svg h => hd ⟨q, svg, hc, hv, h⟩).1
  · exact .inl ⟨rfl, by rw [visit_of_clear s hc]⟩

-- ============================================================ histories

/-- The text in the box after a visit, from a box holding `shown`: Clear empties it, and any
other visit leaves the text entered, or the text it held. -/
def Visit.next (v : Visit) (shown : String) : String :=
  if v.clear then "" else v.text.getD shown

/-- The text in the box after the visits `vs`, from a box holding `shown`. -/
def boxAfter (shown : String) (vs : List Visit) : String :=
  vs.foldl (fun shown v => v.next shown) shown

theorem boxAfter_append (shown : String) (vs ws : List Visit) :
    boxAfter shown (vs ++ ws) = boxAfter (boxAfter shown vs) ws := by
  simp [boxAfter]

theorem boxAfter_append_singleton (shown : String) (vs : List Visit) (v : Visit) :
    boxAfter shown (vs ++ [v]) = v.next (boxAfter shown vs) := by
  simp [boxAfter]

/-- The box after the visits following `w` is the box after all of them. -/
theorem boxAfter_after (shown : String) (pre post : List Visit) (w : Visit) :
    boxAfter (boxAfter shown (pre ++ [w])) post = boxAfter shown (pre ++ w :: post) := by
  rw [← boxAfter_append, List.append_assoc, List.singleton_append]

/-- No visit of `vs`, from a box holding `shown`, presses Clear or draws. -/
def Undisturbed : String → List Visit → Prop
  | _, [] => True
  | shown, v :: vs =>
    v.clear = false ∧ (∀ q svg, ¬ v.Draws shown q svg) ∧ Undisturbed (v.next shown) vs

/-- The latest visit of `vs` since the last Clear that drew, from a box holding `shown`, drew
the picture `svg` of the query `q`. -/
def LatestDrawing (shown : String) (vs : List Visit) (q : Query) (svg : String) : Prop :=
  ∃ pre v post, vs = pre ++ v :: post ∧ v.Draws (boxAfter shown pre) q svg ∧
    Undisturbed (boxAfter shown (pre ++ [v])) post

theorem undisturbed_append_singleton (shown : String) (post : List Visit) (v : Visit) :
    Undisturbed shown (post ++ [v]) ↔
      Undisturbed shown post ∧ v.clear = false ∧
        ∀ q svg, ¬ v.Draws (boxAfter shown post) q svg := by
  induction post generalizing shown with
  | nil => simp [Undisturbed, boxAfter]
  | cons w post ih =>
    simp only [List.cons_append, Undisturbed, ih]
    simp only [boxAfter, List.foldl_cons]
    tauto

/-- A visit ends with the latest drawing when it draws itself, or when it neither clears nor
draws and the drawing was the latest before it. -/
theorem latestDrawing_append_singleton (shown : String) (vs : List Visit) (v : Visit)
    (q : Query) (svg : String) :
    LatestDrawing shown (vs ++ [v]) q svg ↔
      v.Draws (boxAfter shown vs) q svg ∨
      (LatestDrawing shown vs q svg ∧ v.clear = false ∧
        ∀ q' svg', ¬ v.Draws (boxAfter shown vs) q' svg') := by
  constructor
  · rintro ⟨pre, w, post, hsplit, hw, hpost⟩
    -- the drawing visit is the last one, or stands before it
    rcases List.eq_nil_or_concat' post with rfl | ⟨post, u, rfl⟩
    · obtain ⟨rfl, rfl⟩ : vs = pre ∧ v = w := by simpa using hsplit
      exact .inl hw
    · have hsplit' : vs ++ [v] = (pre ++ w :: post) ++ [u] := by simpa using hsplit
      obtain ⟨rfl, hvu⟩ := List.append_inj' hsplit' rfl
      obtain rfl : v = u := by simpa using hvu
      rw [undisturbed_append_singleton, boxAfter_after] at hpost
      obtain ⟨hpost, hc, hnd⟩ := hpost
      exact .inr ⟨⟨pre, w, post, rfl, hw, hpost⟩, hc, hnd⟩
  · rintro (hv | ⟨⟨pre, w, post, rfl, hw, hpost⟩, hc, hnd⟩)
    · exact ⟨vs, v, [], rfl, hv, trivial⟩
    · refine ⟨pre, w, post ++ [v], by simp, hw, ?_⟩
      rw [undisturbed_append_singleton, boxAfter_after]
      exact ⟨hpost, hc, hnd⟩

-- ============================================================ whole sessions

/-- The session after the visits `vs`, one after another. -/
def Session.after (s : Session) (vs : List Visit) : Session :=
  vs.foldl (fun s v => (s.visit v).2) s

theorem Session.after_append_singleton (s : Session) (vs : List Visit) (v : Visit) :
    s.after (vs ++ [v]) = ((s.after vs).visit v).2 := by
  simp [Session.after]

/-- The record of a session lists each visit, made on the session the visits before it left. -/
theorem visits_append (s : Session) (vs ws : List Visit) :
    visits s (vs ++ ws) = visits s vs ++ visits (s.after vs) ws := by
  induction vs generalizing s with
  | nil => rfl
  | cons v vs ih => simp [visits, Session.after, ih]

/-- What a session holds after the visits `vs` from a fresh session: the text of the box, a
query exactly when a picture, and the query and picture of the latest drawing since the last
Clear. -/
structure Tracks (vs : List Visit) (s : Session) : Prop where
  box : s.sqlInput = boxAfter "" vs
  paired : s.lastParsed.isSome = s.lastSvg.isSome
  drawn : ∀ q svg, s.lastParsed = some q ∧ s.lastSvg = some svg ↔ LatestDrawing "" vs q svg

theorem tracks_nil : Tracks [] {} :=
  ⟨rfl, rfl, fun q svg => by simp [LatestDrawing]⟩

/-- One visit keeps the session tracked. -/
theorem Tracks.visit {vs : List Visit} {s : Session} (h : Tracks vs s) (v : Visit) :
    Tracks (vs ++ [v]) (s.visit v).2 := by
  have hbox := boxAfter_append_singleton "" vs v
  rcases visit_cases s v with ⟨hc, hs⟩ | ⟨q', svg', hd, hs⟩ | ⟨hc, hnd, hs⟩
  · -- Clear: nothing is held, and no visit drew since
    rw [hs]
    refine ⟨by simp [hbox, Visit.next, hc], rfl, fun q svg => ?_⟩
    simp [latestDrawing_append_singleton, Visit.Draws, hc]
  · -- a drawing: the latest is this one
    rw [h.box] at hd hs
    rw [hs]
    refine ⟨by simp [hbox, Visit.next, hd.1], rfl, fun q svg => ?_⟩
    rw [latestDrawing_append_singleton]
    constructor
    · rintro ⟨hq, hsvg⟩
      cases hq
      cases hsvg
      exact .inl hd
    · rintro (hv | ⟨-, -, hnd⟩)
      · obtain ⟨rfl, rfl⟩ := hv.2.2.unique hd.2.2
        exact ⟨rfl, rfl⟩
      · exact absurd hd (hnd q' svg')
  · -- neither: the latest drawing stays the one before
    rw [h.box] at hnd hs
    rw [hs]
    refine ⟨by simp [hbox, Visit.next, hc], h.paired, fun q svg => ?_⟩
    rw [latestDrawing_append_singleton]
    simp only [h.drawn q svg]
    exact ⟨fun hl => .inr ⟨hl, hc, hnd⟩, fun hl => hl.elim (absurd · (hnd q svg)) (·.1)⟩

/-- The session after any visits from a fresh session is tracked by them. -/
theorem tracks_after (vs : List Visit) : Tracks vs (({} : Session).after vs) := by
  induction vs using List.reverseRecOn with
  | nil => exact tracks_nil
  | append_singleton vs v ih =>
    rw [Session.after_append_singleton]
    exact ih.visit v

/-- A held picture starts with `<svg`, and its query is held with it. -/
theorem Tracks.held {vs : List Visit} {s : Session} (h : Tracks vs s) {svg : String}
    (hs : s.lastSvg = some svg) :
    ∃ q, s.lastParsed = some q ∧ "<svg".toList <+: svg.toList := by
  obtain ⟨q, hq⟩ := Option.isSome_iff_exists.1 (h.paired.trans (by simp [hs]))
  obtain ⟨_, _, _, _, hd, _⟩ := (h.drawn q svg).1 ⟨hq, hs⟩
  exact ⟨q, hq, hd.2.2.starts_svg⟩

-- ============================================================ what the page shows

/-- A call that shows a drawing: the diagram heading, a picture, the details panel or its
code. -/
def Call.ShowsDiagram (c : Call) : Prop :=
  c = markdown "### Diagram" ∨ (∃ svg, c = picture svg) ∨ c.name = "expander" ∨
    c.name = "code"

theorem not_showsDiagram_of_name {c : Call} (hm : c.name ≠ "markdown")
    (he : c.name ≠ "expander") (hc : c.name ≠ "code") : ¬ c.ShowsDiagram := by
  rintro (rfl | ⟨svg, rfl⟩ | h | h)
  · exact hm rfl
  · exact hm rfl
  · exact he h
  · exact hc h

/-- The text of a picture starts with the opening of its block. -/
theorem start_of_picture {svg x : String} (h : picture svg = markup x) :
    "<div style".toList <+: x.toList := by
  simp only [picture, markup, Call.ofText, Call.mk.injEq, List.cons.injEq, Arg.text.injEq] at h
  rw [← h.2.1.1]
  simp only [String.toList_append, List.append_assoc]
  exact List.IsPrefix.trans (by decide) (List.prefix_append _ _)

/-- Text shown as HTML is neither the diagram heading nor a picture unless it starts like
one. -/
theorem not_showsDiagram_markup {x : String} (hx : ¬ "<div style".toList <+: x.toList) :
    ¬ (markup x).ShowsDiagram := by
  rintro (h | ⟨svg, h⟩ | h | h)
  · simp [markup, markdown, Call.ofText] at h
  · exact hx (start_of_picture h.symm)
  · simp [markup, Call.ofText] at h
  · simp [markup, Call.ofText] at h

/-- The stylesheet starts with a line break. -/
theorem styleSheet_head : styleSheet.toList.head? = some '\n' := by
  rw [styleSheet, styleLines, String.intercalate_cons_cons]
  simp only [String.toList_append]
  have hempty : "".toList = [] := rfl
  have hbreak : "\n".toList = ['\n'] := by decide
  rw [hempty, hbreak]
  rfl

theorem not_showsDiagram_heading : ∀ c ∈ heading, ¬ c.ShowsDiagram := by
  simp only [heading, List.mem_cons, List.not_mem_nil, or_false, forall_eq_or_imp, forall_eq]
  refine ⟨not_showsDiagram_of_name (by decide) (by decide) (by decide), ?_, ?_⟩
  · refine not_showsDiagram_markup fun ⟨t, ht⟩ => ?_
    -- the stylesheet starts with a line break, a picture with `<`
    have hhead := congrArg List.head? ht
    rw [styleSheet_head] at hhead
    simp at hhead
  · refine not_showsDiagram_markup ?_
    simp only [String.toList_append]
    decide

theorem not_showsDiagram_controls (current : String) :
    ∀ c ∈ controls current, ¬ c.ShowsDiagram := by
  simp only [controls, inBlock, Call.ofText, List.cons_append, List.nil_append, List.mem_cons,
    List.not_mem_nil, or_false, forall_eq_or_imp, forall_eq]
  refine ⟨?_, ?_, ?_, ?_, ?_, ?_, ?_, ?_⟩ <;>
    exact not_showsDiagram_of_name (by simp) (by simp) (by simp)

theorem not_showsDiagram_footer : ∀ c ∈ footer, ¬ c.ShowsDiagram := by
  simp only [footer, List.mem_cons, List.not_mem_nil, or_false, forall_eq_or_imp, forall_eq]
  refine ⟨?_, not_showsDiagram_markup ?_⟩
  · rintro (h | ⟨svg, h⟩ | h | h)
    · simp [markdown, Call.ofText] at h
    · simp [picture, markup, markdown, Call.ofText] at h
    · simp [markdown, Call.ofText] at h
    · simp [markdown, Call.ofText] at h
  · simp only [String.toList_append]
    decide

theorem not_showsDiagram_of_report {c : Call} (h : c.name = "error" ∨ c.name = "warning") :
    ¬ c.ShowsDiagram := by
  rcases h with h | h <;> exact not_showsDiagram_of_name (by simp [h]) (by simp [h]) (by simp [h])

/-- A held picture with its query is shown with the panel of the query. -/
theorem drawing_of_held {s : Session} {svg : String} {q : Query} (hs : s.lastSvg = some svg)
    (hq : s.lastParsed = some q) (hne : svg.isEmpty = false) : drawing s = diagram svg q := by
  simp [drawing, hs, hq, hne]

theorem drawing_of_none {s : Session} (hs : s.lastSvg = none) : drawing s = [] := by
  simp [drawing, hs]

/-- A visit that ends holding a picture and its query shows them, after what the buttons
report. -/
theorem diagram_infix_visit (s : Session) (v : Visit) {svg : String} {q : Query}
    (hs : (s.visit v).2.lastSvg = some svg) (hq : (s.visit v).2.lastParsed = some q)
    (hne : svg.isEmpty = false) : diagram svg q <:+: (s.visit v).1 := by
  cases hc : v.clear
  · rw [visit_of_not_clear s hc] at hs hq ⊢
    generalize respond { s with sqlInput := v.text.getD s.sqlInput } v = r at hs hq ⊢
    rw [drawing_of_held hs hq hne]
    exact List.infix_append _ _ _
  · rw [visit_of_clear s hc] at hs
    cases hs

/-- A visit that ends holding no picture shows nothing of a drawing. -/
theorem not_showsDiagram_visit (s : Session) (v : Visit) (hs : (s.visit v).2.lastSvg = none) :
    ∀ c ∈ (s.visit v).1, ¬ c.ShowsDiagram := by
  cases hc : v.clear
  · rw [visit_of_not_clear s hc] at hs ⊢
    -- no picture is held, so the visit did not draw and its buttons report only
    have hnd : v.visualize = true → ∀ q svg,
        ¬ Drawn ({ s with sqlInput := v.text.getD s.sqlInput }).sqlInput v.layout q svg := by
      intro hv q svg hd
      rw [respond_of_drawn _ hv hd] at hs
      cases hs
    have hreport := (respond_of_not_drawn _ hnd).2
    generalize respond { s with sqlInput := v.text.getD s.sqlInput } v = r at hs hreport ⊢
    simp only at hs
    simp only [drawing_of_none hs, List.append_nil, List.mem_append]
    rintro c (((hc | hc) | hc) | hc)
    · exact not_showsDiagram_heading c hc
    · exact not_showsDiagram_controls _ c hc
    · exact not_showsDiagram_of_report (hreport c hc)
    · exact not_showsDiagram_footer c hc
  · rw [visit_of_clear s hc]
    simp only [List.mem_append, List.mem_singleton]
    rintro c (((hc | hc) | rfl) | ((hc | hc) | hc))
    · exact not_showsDiagram_heading c hc
    · exact not_showsDiagram_controls _ c hc
    · exact not_showsDiagram_of_name (by decide) (by decide) (by decide)
    · exact not_showsDiagram_heading c hc
    · exact not_showsDiagram_controls _ c hc
    · exact not_showsDiagram_footer c hc

-- ============================================================ the session's invariant

/-- Every visit of every session: the record of the session lists it after the visits before
it; afterwards a query is held exactly when a picture is; Clear leaves a fresh session; the
query and picture held are those of the latest visit since the last Clear that drew, the
query read from its text and the picture its diagram rendered to; and the visit shows the
picture and the panel of its query if a picture is held, and shows nothing of a drawing
otherwise. -/
theorem session_invariant (pre : List Visit) (v : Visit) :
    let run := (({} : Session).after pre).visit v
    visits {} (pre ++ [v]) = visits {} pre ++ [run] ∧
    (run.2.lastParsed = none ↔ run.2.lastSvg = none) ∧
    (v.clear = true → run.2 = {}) ∧
    (∀ q svg, run.2.lastParsed = some q ∧ run.2.lastSvg = some svg ↔
      LatestDrawing "" (pre ++ [v]) q svg) ∧
    (∀ svg, run.2.lastSvg = some svg →
      ∃ q, run.2.lastParsed = some q ∧ diagram svg q <:+: run.1) ∧
    (run.2.lastSvg = none → ∀ c ∈ run.1, ¬ c.ShowsDiagram) := by
  dsimp only
  generalize hs : ({} : Session).after pre = s
  have htr : Tracks (pre ++ [v]) (s.visit v).2 := by
    rw [← hs, ← Session.after_append_singleton]
    exact tracks_after _
  refine ⟨by simp [visits_append, visits, hs], ?_, fun hc => by rw [visit_of_clear s hc],
    htr.drawn, fun svg hsvg => ?_, not_showsDiagram_visit s v⟩
  · rw [← Option.not_isSome_iff_eq_none, ← Option.not_isSome_iff_eq_none, htr.paired]
  · -- a held picture starts with `<svg`, so it is not empty
    obtain ⟨q, hq, hpre⟩ := htr.held hsvg
    have hne : svg.isEmpty = false := by
      cases hsv : svg.isEmpty
      · rfl
      · rw [String.isEmpty_iff.1 hsv] at hpre
        simp at hpre
    exact ⟨q, hq, diagram_infix_visit s v hsvg hq hne⟩

-- ============================================================ failed visualizations

/-- Why a visualization fails: reading refuses the text, or the diagram does not render. -/
inductive Failure where
  | read (e : QueryError)
  | render (e : RenderError)

/-- Visualizing `text` with the layout engine `layout` fails with `f`. -/
def Failure.Of (text : String) (layout : String → LayoutOutcome) : Failure → Prop
  | .read e => Query.parse text = .error e
  | .render e =>
    ∃ q, Query.parse text = .ok q ∧ ((Diagram.ofQuery q).render layout).result = .error e

/-- The opening words of the error shown for a failure, by the kind of error raised: a parse
error for an empty query, an unsupported feature, or a rendering error. -/
def Failure.opening : Failure → String
  | .read .empty => "Parse error: "
  | .read (.unsupported _) => "Unsupported SQL feature: "
  | .render _ => "Rendering error: "

/-- The message of the error raised. -/
def Failure.message : Failure → String
  | .read e => e.message
  | .render e => e.message

/-- A failed visualization reports its failure and keeps the session. -/
theorem visualize_of_failure (s : Session) {text : String} {layout : String → LayoutOutcome}
    {f : Failure} (hf : f.Of text layout) :
    visualize s text layout = ([.ofText "error" (f.opening ++ f.message)], s) := by
  cases f with
  | read e =>
    rw [visualize_of_parse_error s hf]
    cases e <;> rfl
  | render e =>
    obtain ⟨q, hq, hr⟩ := hf
    exact visualize_of_render_error s hq hr

section respond

variable (s : Session) {v : Visit} (hv : v.visualize = true)
include hv

theorem respond_of_failure (hne : s.sqlInput ≠ "") {f : Failure} (hf : f.Of s.sqlInput v.layout) :
    respond s v = ([.ofText "error" (f.opening ++ f.message)], s) := by
  have hne' : s.sqlInput.isEmpty = false := by simpa [String.isEmpty_iff] using hne
  simp [respond, hv, hne', visualize_of_failure s hf]

theorem respond_of_empty (h : s.sqlInput = "") :
    respond s v = ([.ofText "warning" "Please enter a SQL query to visualize"], s) := by
  simp [respond, hv, h]

end respond

/-- The calls of the page around what the buttons report are named for widgets and blocks,
never `error` or `warning`. -/
theorem not_report_of_page (current : String) (s : Session) {c : Call}
    (h : c ∈ heading ∨ c ∈ controls current ∨ c ∈ drawing s ∨ c ∈ footer) :
    c.name ≠ "error" ∧ c.name ≠ "warning" := by
  have hnames : c.name ∈ ["set_page_config", "markdown", "text_area", "columns", "enter",
      "button", "exit", "expander", "code"] := by
    rcases h with h | h | h | h
    · simp only [heading, List.mem_cons, List.not_mem_nil, or_false] at h
      rcases h with rfl | rfl | rfl <;> simp [markup, Call.ofText]
    · simp only [controls, inBlock, Call.ofText, List.cons_append, List.nil_append, List.mem_cons,
        List.not_mem_nil, or_false] at h
      rcases h with rfl | rfl | rfl | rfl | rfl | rfl | rfl | rfl <;> simp
    · unfold drawing at h
      split at h
      · split at h
        · simp at h
        · simp only [diagram, inBlock, List.cons_append, List.nil_append, List.mem_cons,
            List.not_mem_nil, or_false] at h
          rcases h with rfl | rfl | rfl | rfl | rfl | rfl <;>
            simp [markdown, picture, markup, Call.ofText]
      · simp at h
    · simp only [footer, List.mem_cons, List.not_mem_nil, or_false] at h
      rcases h with rfl | rfl <;> simp [markup, markdown, Call.ofText]
  constructor <;> intro hc <;> simp [hc] at hnames

/-- Of a visit without Clear, the errors and the warnings are those the buttons report. -/
theorem filter_visit_report (s : Session) {v : Visit} (hc : v.clear = false) {w : String}
    (hw : w = "error" ∨ w = "warning") :
    (s.visit v).1.filter (·.name == w) =
      (respond { s with sqlInput := v.text.getD s.sqlInput } v).1.filter (·.name == w) := by
  rw [visit_of_not_clear s hc]
  generalize respond { s with sqlInput := v.text.getD s.sqlInput } v = r
  dsimp only
  -- each part of the page around the report keeps none of its calls
  have hnone : ∀ l : List Call, (∀ c ∈ l, c.name ≠ "error" ∧ c.name ≠ "warning") →
      l.filter (·.name == w) = [] := by
    intro l hl
    refine List.filter_eq_nil_iff.2 fun c hmem => ?_
    rcases hw with rfl | rfl <;> simp [(hl c hmem).1, (hl c hmem).2]
  have hpage : ∀ c,
      (c ∈ heading ∨ c ∈ controls s.sqlInput ∨ c ∈ drawing r.2 ∨ c ∈ footer) →
      c.name ≠ "error" ∧ c.name ≠ "warning" := fun c h => not_report_of_page s.sqlInput r.2 h
  rw [List.filter_append, List.filter_append, List.filter_append, List.filter_append,
    hnone heading fun c h => hpage c (.inl h),
    hnone (controls s.sqlInput) fun c h => hpage c (.inr (.inl h)),
    hnone (drawing r.2) fun c h => hpage c (.inr (.inr (.inl h))),
    hnone footer fun c h => hpage c (.inr (.inr (.inr h)))]
  simp

/-- A visit with Visualize and without Clear whose visualization fails reports one error,
opened by the kind of error raised, and no warning, and changes nothing but the text of the box;
on an empty text it gives one warning and no error, and changes nothing else either. -/
theorem failed_visualize_keeps_drawing (s : Session) (v : Visit) (hc : v.clear = false)
    (hv : v.visualize = true) :
    let text := v.text.getD s.sqlInput
    let run := s.visit v
    (text ≠ "" → ∀ f : Failure, f.Of text v.layout →
      run.1.filter (·.name == "error") = [.ofText "error" (f.opening ++ f.message)] ∧
      run.1.filter (·.name == "warning") = [] ∧
      run.2 = { s with sqlInput := text }) ∧
    (text = "" →
      run.1.filter (·.name == "warning") =
        [.ofText "warning" "Please enter a SQL query to visualize"] ∧
      run.1.filter (·.name == "error") = [] ∧
      run.2 = { s with sqlInput := text }) := by
  dsimp only
  rw [filter_visit_report s hc (.inl rfl), filter_visit_report s hc (.inr rfl)]
  refine ⟨fun hne f hf => ?_, fun hempty => ?_⟩
  · have hr := respond_of_failure { s with sqlInput := v.text.getD s.sqlInput } hv hne hf
    refine ⟨by simp [hr, Call.ofText], by simp [hr, Call.ofText], ?_⟩
    rw [visit_of_not_clear s hc, hr]
  · have hr := respond_of_empty { s with sqlInput := v.text.getD s.sqlInput } hv hempty
    refine ⟨by simp [hr, Call.ofText], by simp [hr, Call.ofText], ?_⟩
    rw [visit_of_not_clear s hc, hr]

/-- Visualizing a union from a fresh session fails: reading refuses the text for its union, the
first unsupported construct in it, and the visit reports that one error, no warning, and keeps
the session but for the text. -/
theorem union_visualize_keeps_drawing :
    ({ text := some "SELECT * FROM a UNION SELECT * FROM b", visualize := true } : Visit).clear =
      false ∧
    ({ text := some "SELECT * FROM a UNION SELECT * FROM b", visualize := true } :
      Visit).visualize = true ∧
    "SELECT * FROM a UNION SELECT * FROM b" ≠ "" ∧
    (Failure.read (.unsupported .union)).Of "SELECT * FROM a UNION SELECT * FROM b"
      (fun _ => .missing) ∧
    (({} : Session).visit
      { text := some "SELECT * FROM a UNION SELECT * FROM b", visualize := true }).1.filter
        (·.name == "error") =
      [.ofText "error" ("Unsupported SQL feature: " ++ Feature.union.message)] ∧
    (({} : Session).visit
      { text := some "SELECT * FROM a UNION SELECT * FROM b", visualize := true }).1.filter
        (·.name == "warning") = [] ∧
    (({} : Session).visit
      { text := some "SELECT * FROM a UNION SELECT * FROM b", visualize := true }).2 =
      { sqlInput := "SELECT * FROM a UNION SELECT * FROM b" } := by
  have hne : "SELECT * FROM a UNION SELECT * FROM b" ≠ "" := by decide
  -- reading refuses the text: the search over its upper case reports the union first
  have hf : (Failure.read (.unsupported .union)).Of "SELECT * FROM a UNION SELECT * FROM b"
      (fun _ => .missing) :=
    (Query.parse_eq_unsupported_iff _ _).2
      ⟨by decide +kernel, (Feature.findIn_eq_some_iff _ _).1 (by decide +kernel)⟩
  obtain ⟨herr, hwarn, hs⟩ := (failed_visualize_keeps_drawing {}
    { text := some "SELECT * FROM a UNION SELECT * FROM b", visualize := true } rfl rfl).1 hne _ hf
  exact ⟨rfl, rfl, hne, hf, herr, hwarn, hs⟩

end QueryDiagram.Page
