import QueryDiagram.Proofs.Diagram.Extraction

/-!
What a layout engine's document renders to.

A layout engine answers with a document: a prolog of declarations and comments, one `svg`
element, and a trailer (`SvgDocument`). The prolog holds no `<svg` and the trailer no `</svg>`,
so reading cuts out the element, and the element's start tag names the SVG namespace already, so
it comes back as it is (`readSvg_document`, a case of `readSvg_element`).

Before any search, though, the answer is refused when its lower case mentions `error` anywhere,
in the labels too. A diagram whose table names a word with `error` in it is never rendered,
whatever the engine draws (`render_refuses_table_named_errors`).

Main statement: `Diagram.render_document`.
-/

namespace QueryDiagram

open Text

-- ============================================================ documents

/-- A document as a layout engine writes it: a prolog of declarations and comments, one `svg`
element with its attributes and content, and a trailer. The prolog holds no `<svg`, the trailer
no `</svg>`, and the start tag names the SVG namespace. -/
structure SvgDocument where
  prolog : List Char
  attrs : List Char
  content : List Char
  trailer : List Char
  prologClean : ¬ "<svg".toList <:+: prolog
  trailerClean : ¬ "</svg>".toList <:+: trailer
  xmlns : "xmlns=".toList <:+: attrs

namespace SvgDocument

/-- The `svg` element of a document. -/
def element (d : SvgDocument) : List Char :=
  "<svg".toList ++ (d.attrs ++ '>' :: (d.content ++ "</svg>".toList))

/-- The text of a document. -/
def text (d : SvgDocument) : List Char := d.prolog ++ (d.element ++ d.trailer)

theorem attrs_infix_element (d : SvgDocument) : d.attrs <:+: d.element :=
  ⟨"<svg".toList, '>' :: (d.content ++ "</svg>".toList), by simp [element]⟩

/-- A document is read as its element, unless its text mentions an error in any case. -/
theorem readSvg_document (d : SvgDocument) :
    readSvg (String.ofList d.text) =
      if occursIn "error".toList (lowerChars d.text) then .error (.errorInOutput (String.ofList d.text))
      else .ok (String.ofList d.element) := by
  have htext : d.text = d.prolog ++ ("<svg".toList ++
      ((d.attrs ++ '>' :: d.content) ++ ("</svg>".toList ++ d.trailer))) := by
    simp [text, element]
  have helement : "<svg".toList ++ ((d.attrs ++ '>' :: d.content) ++ "</svg>".toList) =
      d.element := by
    simp [element]
  -- the start tag names the namespace, so none is added
  have hxmlns : occursIn "xmlns=".toList d.element = true :=
    (occursIn_eq_true_iff _ _).2 (d.xmlns.trans d.attrs_infix_element)
  split
  · rename_i herr
    have hfull : (trimChars d.text).isEmpty = false := htext ▸ trimChars_isEmpty_of_open
    simp only [readSvg, String.toList_ofList, hfull, herr, Bool.false_eq_true, if_false, if_true]
  · rename_i hok
    rw [htext] at hok ⊢
    rw [readSvg_element _ _ _ d.prologClean d.trailerClean (by simpa using hok), helement,
      if_pos hxmlns]

end SvgDocument

-- ============================================================ rendering

/-- A diagram with tables, for which the layout engine writes a document, renders to the
document's element, unless the document mentions an error in any case. -/
theorem Diagram.render_document {μ : Type} [Mark μ] {g : Diagram μ} (hg : g.nodes ≠ [])
    {layout : String → LayoutOutcome} (d : SvgDocument)
    (hl : layout g.dotSource = .output (String.ofList d.text)) :
    (g.render layout).result =
      if occursIn "error".toList (lowerChars d.text) then .error (.errorInOutput (String.ofList d.text))
      else .ok (String.ofList d.element) := by
  rw [Diagram.render_output hg hl]
  exact SvgDocument.readSvg_document d

/-- A new node's label is two lines: the table's name over the separator. -/
theorem TableNode.label_fresh (name : String) :
    (TableNode.fresh name : TableNode Bool).label = name ++ "\n" ++ labelSeparator := by
  simp [TableNode.label, TableNode.fresh, TableNode.columnLines, TableNode.filterLines,
    Mark.isSet, Mark.unset]

/-- The document an engine writes for one new table: the name as the node's title, then one
text for each line of the node's label, the name and the separator (`TableNode.label_fresh`).
A name of letters needs no XML escaping. -/
def oneTableDocument (name : String) : SvgDocument where
  prolog :=
    "<?xml version=\"1.0\" encoding=\"UTF-8\" standalone=\"no\"?>\n<!-- Generated by graphviz -->\n".toList
  attrs := " width=\"62pt\" height=\"44pt\" xmlns=\"http://www.w3.org/2000/svg\"".toList
  content := ("<g class=\"node\"><title>" ++ name ++ "</title><text>" ++ name ++ "</text><text>" ++
    labelSeparator ++ "</text></g>").toList
  trailer := "\n".toList
  prologClean := by decide +kernel
  trailerClean := by decide +kernel
  xmlns := by decide +kernel

/-- The same document renders for a table named orders and is refused for one named errors. -/
theorem render_refuses_table_named_errors :
    (((Diagram.empty : Diagram Bool).addTable "errors").render
        fun _ => .output (String.ofList (oneTableDocument "errors").text)).result =
      .error (.errorInOutput (String.ofList (oneTableDocument "errors").text)) ∧
    (((Diagram.empty : Diagram Bool).addTable "orders").render
        fun _ => .output (String.ofList (oneTableDocument "orders").text)).result =
      .ok (String.ofList (oneTableDocument "orders").element) := by
  refine ⟨?_, ?_⟩
  · rw [Diagram.render_document (by simp [Diagram.addTable, Diagram.empty, Diagram.names]) _ rfl,
      if_pos (by decide +kernel)]
  · rw [Diagram.render_document (by simp [Diagram.addTable, Diagram.empty, Diagram.names]) _ rfl,
      if_neg (by decide +kernel)]

end QueryDiagram
