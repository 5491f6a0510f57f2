import QueryDiagram.Diagram.Dot
import QueryDiagram.Text.Match

/-!
Rendering a diagram to SVG.

A diagram with no tables is not rendered. Otherwise its DOT text goes to a layout engine,
which may be missing, may fail with a message, or may answer with text. That text is read as
SVG: it must not be blank, must not mention an error in any case, and must hold an `<svg`
element. Text without one that names a clause of a query (`SELECT`, `FROM`, `WHERE`, `JOIN`,
`ON`, in any case) is taken for a query sent back. The element runs from the first `<svg` to
the end of the last `</svg>`; without a closing tag it ends after the fifth character, and if
that end is not past the start, nothing can be cut out. A cut without an `xmlns=` attribute
gets the SVG namespace on its first `<svg`; a cut that ends too early to hold the whole
`<svg` is not SVG.
-/

namespace QueryDiagram

open Text

-- ============================================================ outcomes

/-- What the layout engine gives back for a DOT text. -/
inductive LayoutOutcome where
  /-- The engine is not installed. -/
  | missing
  /-- The engine failed with a message. -/
  | failed (message : String)
  /-- The engine answered with a text. -/
  | output (text : String)
  deriving DecidableEq, Repr

/-- Why a diagram could not be rendered. -/
inductive RenderError where
  /-- The diagram has no tables. -/
  | noNodes
  /-- The layout engine is not installed. -/
  | engineMissing
  /-- The layout engine failed on the given DOT text. -/
  | engineFailed (message source : String)
  /-- The engine's answer is blank. -/
  | emptyOutput
  /-- The engine's answer mentions an error. -/
  | errorInOutput (text : String)
  /-- The engine's answer looks like a query. -/
  | queryText (text : String)
  /-- The engine's answer holds no SVG element. -/
  | noSvgElement (text : String)
  /-- The SVG element cannot be cut out of the engine's answer. -/
  | unextractable
  /-- What was cut out does not start with `<svg`. -/
  | notSvg (text : String)
  deriving DecidableEq, Repr

/-- The first `n` characters of a text. -/
def firstChars (n : Nat) (s : String) : String := String.ofList (s.toList.take n)

/-- The message of a render error. -/
def RenderError.message : RenderError → String
  | .noNodes => "Graph has no nodes to render"
  | .engineMissing => "Graphviz executable not found. Please install Graphviz system package."
  | .engineFailed m source => "Failed to generate SVG: " ++ m ++ "\nDOT source:\n" ++ source
  | .emptyOutput => "Graphviz returned empty SVG"
  | .errorInOutput t => "Graphviz error in output: " ++ firstChars 500 t
  | .queryText t => "Graphviz returned unexpected content (possibly SQL query): " ++ firstChars 200 t
  | .noSvgElement t => "No SVG element found in Graphviz output. Got: " ++ firstChars 200 t
  | .unextractable => "Could not extract SVG element from Graphviz output"
  | .notSvg t => "Invalid SVG format. Does not start with <svg. Got: " ++ firstChars 100 t

-- ============================================================ reading SVG

/-- The clause words that mark a query. -/
def clauseMarks : List String := ["SELECT", "FROM", "WHERE", "JOIN", "ON"]

/-- The start tag of an SVG element with the SVG namespace. -/
def svgOpenWithNamespace : String := "<svg xmlns=\"http://www.w3.org/2000/svg\""

/-- Gives the first `<svg` the SVG namespace unless the text has an `xmlns=` attribute. -/
def addNamespace (cs : List Char) : List Char :=
  if occursIn "xmlns=".toList cs then cs
  else
    match indexOf? "<svg".toList cs with
    | some i => cs.take i ++ svgOpenWithNamespace.toList ++ cs.drop (i + 4)
    | none => cs

/-- Cuts the SVG element out of an answer in which `<svg` first occurs at `start`. -/
def cutSvg (cs : List Char) (start : Nat) : Except RenderError String :=
  let stop := ((lastIndexOf? "</svg>".toList cs).map (· + 6)).getD 5
  if start < stop then
    let svg := addNamespace ((cs.take stop).drop start)
    if startsWithBy (· == ·) "<svg".toList svg then .ok (String.ofList svg)
    else .error (.notSvg (String.ofList svg))
  else .error .unextractable

/-- Reads the layout engine's answer as an SVG element. -/
def readSvg (s : String) : Except RenderError String :=
  let cs := s.toList
  if (trimChars cs).isEmpty then .error .emptyOutput
  else if occursIn "error".toList (lowerChars cs) then .error (.errorInOutput s)
  else
    match indexOf? "<svg".toList cs with
    | some start => cutSvg cs start
    | none =>
      if clauseMarks.any (fun w => occursIn w.toList (upperChars cs)) then .error (.queryText s)
      else .error (.noSvgElement s)

-- ============================================================ rendering

/-- A rendering: the DOT text handed to the layout engine, if it was reached, and the SVG
element or the reason there is none. -/
structure Rendering where
  source : Option String
  result : Except RenderError String

/-- Renders a diagram with a layout engine. -/
def Diagram.render {μ : Type} [Mark μ] (g : Diagram μ) (layout : String → LayoutOutcome) :
    Rendering :=
  if g.nodes.isEmpty then ⟨none, .error .noNodes⟩
  else
    let source := g.dotSource
    ⟨some source,
      match layout source with
      | .missing => .error .engineMissing
      | .failed m => .error (.engineFailed m source)
      | .output s => readSvg s⟩

end QueryDiagram
