import TabularAudit.Text.Blank
import TabularAudit.Text.Case
import TabularAudit.Text.Digit
import TabularAudit.Text.Search
import TabularAudit.Text.Quoted
import TabularAudit.Number.Shortest
import TabularAudit.Value.Text
import TabularAudit.Value.Integer
import TabularAudit.Json.Reader
import TabularAudit.Json.Writer
import TabularAudit.Expr.Parser
import TabularAudit.Model.Bag
import TabularAudit.Model.Object
import TabularAudit.Model.Index
import TabularAudit.Model.Scope
import TabularAudit.Model.Record
import TabularAudit.Model.Snapshot
import TabularAudit.Pattern.Matcher
import TabularAudit.Expr.Comparison
import TabularAudit.Expr.Method
import TabularAudit.Expr.Traced
import TabularAudit.Expr.Lookup
import TabularAudit.Expr.Meaning
import TabularAudit.Finding
import TabularAudit.Rule.Basic
import TabularAudit.Rule.Given
import TabularAudit.Rule.Bundled
import TabularAudit.Rule.Catalog
import TabularAudit.Run.Basic
import TabularAudit.Run.Summary
import TabularAudit.Run.Comparison
import TabularAudit.Run.Key
import TabularAudit.Storage.Path
import TabularAudit.Storage.Disk
import TabularAudit.Storage.Document
import TabularAudit.Storage.Findings
import TabularAudit.Report.Markup
import TabularAudit.Report.Page
import TabularAudit.Report.Table
import TabularAudit.Audit
import TabularAudit.Settings
import TabularAudit.Logging
import TabularAudit.Command.Options
import TabularAudit.Command.Basic
import TabularAudit.Main
import TabularAudit.Expr.Outline
import TabularAudit.Proofs.Parsing.Cursor
import TabularAudit.Proofs.Parsing.Locality
import TabularAudit.Proofs.Parsing.Outline
import TabularAudit.Expr.Grammar
import TabularAudit.Proofs.Parsing.Completeness
import TabularAudit.Proofs.Parsing.Grammar
import TabularAudit.Model.Endpoint
import TabularAudit.Proofs.Snapshot
import TabularAudit.Proofs.RelationshipUse
import TabularAudit.Proofs.Tally
import TabularAudit.Run.Pool
import TabularAudit.Proofs.Run.Pool
import TabularAudit.Run.Violations
import TabularAudit.Proofs.Run.Merge
import TabularAudit.Proofs.Run.Violations
import TabularAudit.Proofs.Run.Findings
import TabularAudit.Proofs.Run.Order
import TabularAudit.Proofs.Run.Summary
import TabularAudit.Proofs.Run.Comparison
import TabularAudit.Proofs.Run.Partition
import TabularAudit.Run.Session
import TabularAudit.Proofs.Run.Session
import TabularAudit.Proofs.Run.Category
import TabularAudit.Proofs.Storage.Disk
import TabularAudit.Proofs.Storage.Document
import TabularAudit.Proofs.Audit
import TabularAudit.Model.Respelling
import TabularAudit.Proofs.Respelling.Letters
import TabularAudit.Proofs.Respelling.Records
import TabularAudit.Proofs.Respelling.Snapshot
import TabularAudit.Proofs.Expr.Similar
import TabularAudit.Proofs.Respelling.Run
import TabularAudit.Proofs.Rule
import TabularAudit.Model.Extension
import TabularAudit.Proofs.Expr.Lookup
import TabularAudit.Proofs.Expr.Extension
import TabularAudit.Model.Reordering
import TabularAudit.Proofs.Reordering.Sections
import TabularAudit.Proofs.Reordering.Run
import TabularAudit.Proofs.Lexing.Lexemes
import TabularAudit.Proofs.Lexing.Normal
import TabularAudit.Proofs.Lexing.Surface
import TabularAudit.Proofs.Lexing.Depth
import TabularAudit.Proofs.Parsing.Shape
import TabularAudit.Proofs.Expr.Texts
import TabularAudit.Proofs.Parsing.Recovery
import TabularAudit.Proofs.Expr.Recovery
import TabularAudit.Proofs.Lexing.Fault
import TabularAudit.Expr.Loose
import TabularAudit.Proofs.Literal
import TabularAudit.Proofs.Expr.Truth
import TabularAudit.Proofs.Expr.Comparison
import TabularAudit.Proofs.Aggregates
import TabularAudit.Model.PlainEnds
import TabularAudit.Proofs.RelationshipEnds
import TabularAudit.Proofs.Bundled.Reported
import TabularAudit.Proofs.Bundled.Snowflake
import TabularAudit.Proofs.Bundled.ForeignKeys
import TabularAudit.Report.Shape
import TabularAudit.Proofs.Report.Groups
import TabularAudit.Proofs.Report.Tables
import TabularAudit.Proofs.Report.Page
import TabularAudit.Proofs.Report.Listing
import TabularAudit.Model.Section
import TabularAudit.Proofs.Census
import TabularAudit.Proofs.Results
import TabularAudit.Expr.Collection
import TabularAudit.Proofs.Expr.Context
import TabularAudit.Proofs.Parsing.Dotted
import TabularAudit.Proofs.Expr.Counting
import TabularAudit.Proofs.TableUse
import TabularAudit.Expr.Source
import TabularAudit.Proofs.Lexing.Positions
import TabularAudit.Proofs.Lexing.Cover
import TabularAudit.Proofs.Lexing.Embedding
import TabularAudit.Proofs.Expr.Parentheses
import TabularAudit.Proofs.Lexing.Spacing
import TabularAudit.Proofs.Expr.Quotation
import TabularAudit.Proofs.Expr.Sides
import TabularAudit.Proofs.Expr.Equality
import TabularAudit.Expr.Negation
import TabularAudit.Proofs.Expr.Negation
import TabularAudit.Proofs.Reordering.Relationships
import TabularAudit.Proofs.MemberCounts
import TabularAudit.Proofs.Nesting
import TabularAudit.Proofs.Expr.Searching
import TabularAudit.Model.Change
import TabularAudit.Model.History
import TabularAudit.Model.RecordKind
import TabularAudit.Proofs.Rereading
import TabularAudit.Model.Shape
import TabularAudit.Proofs.Acceptance
import TabularAudit.Proofs.Faults
import TabularAudit.Proofs.RuleRecords
import TabularAudit.Proofs.Storage.Findings
import TabularAudit.Proofs.Run.Totals
