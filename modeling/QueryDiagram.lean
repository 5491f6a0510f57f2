import QueryDiagram.Text.Blank
import QueryDiagram.Text.Word
import QueryDiagram.Text.Case
import QueryDiagram.Text.Match
import QueryDiagram.Sql.Token
import QueryDiagram.Sql.Keyword
import QueryDiagram.Sql.Lexer
import QueryDiagram.Sql.Statement
import QueryDiagram.Query.Basic
import QueryDiagram.Query.Unsupported
import QueryDiagram.Query.Tables
import QueryDiagram.Query.Joins
import QueryDiagram.Query.Columns
import QueryDiagram.Query.Filters
import QueryDiagram.Query.Grouping
import QueryDiagram.Query.Parse
import QueryDiagram.Diagram.Graph
import QueryDiagram.Diagram.Build
import QueryDiagram.Diagram.Label
import QueryDiagram.Dot.Quote
import QueryDiagram.Dot.Source
import QueryDiagram.Diagram.Dot
import QueryDiagram.Diagram.Render
import QueryDiagram.Text.Base64
import QueryDiagram.Text.Json
import QueryDiagram.Page.Style
import QueryDiagram.Page.Script
import QueryDiagram.Text.Cased
import QueryDiagram.Proofs.Outcome
import QueryDiagram.Proofs.Tokens.Words
import QueryDiagram.Proofs.Tokens.Pieces
import QueryDiagram.Proofs.Joins.Search
import QueryDiagram.Proofs.Query.Readers
import QueryDiagram.Proofs.Query.Shape
import QueryDiagram.Proofs.Joins.Text
import QueryDiagram.Proofs.Query.Keywords
import QueryDiagram.Proofs.Query.Reading
import QueryDiagram.Proofs.Query.Parsed
import QueryDiagram.Proofs.Refused
import QueryDiagram.Proofs.Diagram.SetOrder
import QueryDiagram.Proofs.Dot.Labels
import QueryDiagram.Proofs.Diagram.Store
import QueryDiagram.Proofs.Page.Session
import QueryDiagram.Proofs.Diagram.Sources
import QueryDiagram.Proofs.Query.Output
import QueryDiagram.Proofs.Diagram.Complete
import QueryDiagram.Proofs.Query.SelectList
import QueryDiagram.Proofs.Query.Conditions
import QueryDiagram.Proofs.Diagram.Extraction
import QueryDiagram.Proofs.Diagram.Document
import QueryDiagram.Proofs.Dot.Escaping
import QueryDiagram.Proofs.Diagram.Marks
import QueryDiagram.Proofs.Query.Tables
