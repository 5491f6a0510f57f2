import QueryDiagram.Page.Style
import QueryDiagram.Query.Parse
import QueryDiagram.Diagram.Build
import QueryDiagram.Diagram.Render
import QueryDiagram.Text.Base64
import QueryDiagram.Text.Json

/-!
The visualizer page.

The page is a script that runs from the top on every visit and draws itself through calls to
its toolkit: page settings, the stylesheet and the title, a text area for the query, and two
buttons side by side. The session keeps the text of the query and the last query and picture
that were drawn.

*Clear* empties the session and asks for the page to be run again at once; that run sees no
new text and no button pressed. *Visualize* with a query reads it, builds its diagram and
renders it; on success the session keeps the query and the picture, otherwise the page shows
why it failed. *Visualize* with an empty text asks for a query. Whenever the session holds a
picture and a query, the page shows the picture as an embedded SVG image and the query, as
indented JSON, in a panel of details. A footer closes the page.
-/

namespace QueryDiagram.Page

open Text

-- ============================================================ calls

/-- A value passed to the toolkit. -/
inductive Arg where
  | text (s : String)
  | count (n : Nat)
  | flag (b : Bool)
  deriving DecidableEq, Repr

/-- A call of the page to its toolkit: the widget, its positional arguments and its named
arguments. Entering and leaving a block are calls `enter` and `exit` with the block's name. -/
structure Call where
  name : String
  args : List Arg
  named : List (String × Arg) := []
  deriving DecidableEq, Repr

/-- A call with text as its only positional argument. -/
def Call.ofText (name s : String) (named : List (String × Arg) := []) : Call :=
  ⟨name, [.text s], named⟩

/-- Text shown as Markdown. -/
def markdown (s : String) : Call := .ofText "markdown" s

/-- Text shown as Markdown that may hold HTML. -/
def markup (s : String) : Call := .ofText "markdown" s [("unsafe_allow_html", .flag true)]

/-- The calls of a block: entering it, its contents and leaving it. -/
def inBlock (name : String) (body : List Call) : List Call :=
  [.ofText "enter" name] ++ body ++ [.ofText "exit" name]

-- ============================================================ sessions and visits

/-- What the session keeps between runs: the text of the query, and the last query and SVG
picture drawn. -/
structure Session where
  sqlInput : String := ""
  lastParsed : Option Query := none
  lastSvg : Option String := none
  deriving DecidableEq, Repr

/-- What a visit brings: new text in the text area if any, which buttons are pressed, and
how the layout engine answers. -/
structure Visit where
  text : Option String := none
  visualize : Bool := false
  clear : Bool := false
  layout : String → LayoutOutcome := fun _ => .missing

/-- One run of the script: its calls, the session after it and whether it asked to be run
again. -/
structure Pass where
  calls : List Call
  session : Session
  rerun : Bool

-- ============================================================ the parts of the page

/-- What the toolkit is told about the page and its heading. -/
def heading : List Call := [
  ⟨"set_page_config", [], [("page_title", .text "SQL Visualizer"), ("layout", .text "wide"),
    ("initial_sidebar_state", .text "collapsed")]⟩,
  markup styleSheet,
  markup ("<div class=\"main-title-block\"><h1 class=\"main-title\">SQL Query Visualizer</h1>" ++
    "<p class=\"main-subtitle\">Convert SQL queries into visual diagrams</p></div>")]

/-- The list of supported clauses. -/
def supported : String := "Supports: SELECT, FROM, INNER JOIN, LEFT JOIN, WHERE, GROUP BY"

/-- The query input showing `current`, and the two buttons. -/
def controls (current : String) : List Call :=
  [.ofText "text_area" "Enter SQL Query" [("value", .text current), ("height", .count 200),
      ("placeholder", .text ("SELECT * FROM users INNER JOIN orders ON users.id = " ++
        "orders.user_id WHERE users.active = 1")),
      ("help", .text supported)],
    ⟨"columns", [.count 2], []⟩] ++
  inBlock "column1"
    [.ofText "button" "Visualize" [("type", .text "primary"), ("use_container_width", .flag true)]] ++
  inBlock "column2" [.ofText "button" "Clear" [("use_container_width", .flag true)]]

/-- The footer. -/
def footer : List Call := [markdown "---", markup ("<small>" ++ supported ++ "</small>")]

/-- A query as the JSON value shown in the details. -/
def Query.toJson (q : Query) : JsonValue :=
  let keyed (kvs : List (String × List String)) : JsonValue :=
    .object (kvs.map fun (k, vs) => (k, .list (vs.map .text)))
  .object [
    ("tables", .list (q.tables.map .text)),
    ("joins", .list (q.joins.map fun j =>
      .object [("type", .text j.kind), ("table", .text j.table), ("condition", .text j.condition)])),
    ("selected_columns", keyed q.columns),
    ("filters", keyed q.filters),
    ("group_by", if q.groupBy.isEmpty then .null else .list (q.groupBy.map .text))]

/-- The picture as an image embedded in the page. -/
def picture (svg : String) : Call :=
  markup ("<div style=\"text-align: center; width: 100%; padding: 1rem 0;\">" ++
    "<img src=\"data:image/svg+xml;base64," ++ base64 (utf8 svg) ++
    "\" style=\"max-width: 100%; height: auto; border-radius: 16px; " ++
    "box-shadow: 0 8px 32px rgba(0,0,0,0.4);\"></div>")

/-- The picture and a panel with the details of its query. -/
def diagram (svg : String) (q : Query) : List Call :=
  [markdown "### Diagram", picture svg, .ofText "expander" "Query Details"] ++
    inBlock "Query Details" [.ofText "code" (Query.toJson q).render [("language", .text "json")]]

/-- The drawn picture and the details of its query, when the session holds both. -/
def drawing (s : Session) : List Call :=
  match s.lastSvg, s.lastParsed with
  | some svg, some q => if svg.isEmpty then [] else diagram svg q
  | _, _ => []

-- ============================================================ visualizing

/-- The message shown when a query cannot be read. -/
def readFailure (e : QueryError) : String :=
  match e with
  | .empty => "Parse error: " ++ e.message
  | .unsupported _ => "Unsupported SQL feature: " ++ e.message

/-- Reads, builds and renders a query: the calls that report a failure, and the session after
it. The picture is kept only if it is not blank and starts with `<svg`. -/
def visualize (s : Session) (text : String) (layout : String → LayoutOutcome) :
    List Call × Session :=
  match Query.parse text with
  | .error e => ([.ofText "error" (readFailure e)], s)
  | .ok q =>
    match ((Diagram.ofQuery q).render layout).result with
    | .error e => ([.ofText "error" ("Rendering error: " ++ e.message)], s)
    | .ok svg =>
      if (trim svg).isEmpty then ([.ofText "error" "Failed to generate diagram. SVG is empty."], s)
      else if !startsWithBy (· == ·) "<svg".toList svg.toList then
        ([.ofText "error" ("Invalid SVG output. Got: " ++ firstChars 200 svg)], s)
      else ([], { s with lastParsed := some q, lastSvg := some svg })

-- ============================================================ runs

/-- What the Visualize button does once the session holds the text entered: nothing when it is
not pressed, a warning on an empty text, and otherwise the visualization of the text. -/
def respond (s : Session) (v : Visit) : List Call × Session :=
  let text := s.sqlInput
  if !v.visualize then ([], s)
  else if text.isEmpty then ([.ofText "warning" "Please enter a SQL query to visualize"], s)
  else visualize s text v.layout

/-- One run of the script. -/
def execute (s : Session) (v : Visit) : Pass :=
  let text := v.text.getD s.sqlInput
  let top := heading ++ controls s.sqlInput
  if v.clear then ⟨top ++ [⟨"rerun", [], []⟩], {}, true⟩
  else
    let (report, s) := respond { s with sqlInput := text } v
    ⟨top ++ report ++ drawing s ++ footer, s, false⟩

/-- A visit: one run, and a second one with nothing entered when the first asked for it. -/
def Session.visit (s : Session) (v : Visit) : List Call × Session :=
  let first := execute s v
  if first.rerun then
    let second := execute first.session { layout := v.layout }
    (first.calls ++ second.calls, second.session)
  else (first.calls, first.session)

/-- A sequence of visits from a fresh session: what each one drew and the session after it. -/
def visits : Session → List Visit → List (List Call × Session)
  | _, [] => []
  | s, v :: vs =>
    let (calls, s) := s.visit v
    (calls, s) :: visits s vs

end QueryDiagram.Page
