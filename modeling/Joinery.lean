import Joinery.Chain.Basic
import Joinery.Chain.Cursor
import Joinery.Chain.Layout
import Joinery.Chain.Run
import Joinery.Chain.Window
import Joinery.Config.Descriptor
import Joinery.Config.Document.Reader
import Joinery.Config.Document.Scalar
import Joinery.Config.Document.Table
import Joinery.Config.Document.Text
import Joinery.Config.Files
import Joinery.Config.Settings
import Joinery.Config.Template
import Joinery.Connection.Binding
import Joinery.Connection.Ledger
import Joinery.Connection.Session
import Joinery.Criteria.Basic
import Joinery.Criteria.Join
import Joinery.Criteria.Sort
import Joinery.Decimal.Double
import Joinery.Decimal.Numeral
import Joinery.Decimal.Shortest
import Joinery.Decimal.Style
import Joinery.Error
import Joinery.Mapping.Basic
import Joinery.Mapping.Record
import Joinery.Proofs.Chain.Layout
import Joinery.Proofs.Criteria.Tree
import Joinery.Proofs.Criteria.Truth
import Joinery.Proofs.Sql.Atom
import Joinery.Proofs.Sql.Clause
import Joinery.Proofs.Sql.Emission
import Joinery.Proofs.Sql.Inversion
import Joinery.Proofs.Sql.Meaning
import Joinery.Proofs.Sql.Placeholder
import Joinery.Proofs.Sql.Plan
import Joinery.Proofs.Sql.ReadBack
import Joinery.Proofs.Sql.Reader
import Joinery.Proofs.Sql.SelectList
import Joinery.Sql.Condition
import Joinery.Sql.Dialect
import Joinery.Sql.Plan
import Joinery.Sql.Pool
import Joinery.Sql.Query
import Joinery.Sql.Quote
import Joinery.Sql.Spatial
import Joinery.Sql.Statement
import Joinery.Sql.Token
import Joinery.Text.Alphanumeric
import Joinery.Text.Blank
import Joinery.Text.CaseTables
import Joinery.Text.LetterCase
import Joinery.Text.Quoted
import Joinery.Text.Ranges
import Joinery.Text.Visible
import Joinery.Value.Basic
import Joinery.Value.Coerce
import Joinery.Value.Field
import Joinery.Proofs.Sql.Lexeme
import Joinery.Proofs.Sql.Scanning
import Joinery.Proofs.Sql.Spacing
import Joinery.Proofs.Criteria.Redacted
import Joinery.Proofs.Sql.Redaction
import Joinery.Proofs.Chain.Reachable
import Joinery.Proofs.Sql.Scope
import Joinery.Proofs.Chain.Build
import Joinery.Proofs.Chain.Scope
import Joinery.Proofs.Chain.Materialization
import Joinery.Proofs.Sql.Requests
import Joinery.Proofs.Chain.Windowing
import Joinery.Proofs.Sql.Pool
import Joinery.Proofs.Chain.Inquiries
import Joinery.Proofs.Sql.Neutral
import Joinery.Proofs.Sql.Dialects
import Joinery.Proofs.Connection.Ownership
import Joinery.Proofs.Sql.Desk
import Joinery.Proofs.Chain.Collecting
import Joinery.Proofs.Sql.Nesting
import Joinery.Proofs.Sql.Outline
import Joinery.Proofs.Sql.Decoding
import Joinery.Proofs.Value.Coercion
import Joinery.Proofs.Mapping.Binding
import Joinery.Proofs.Chain.Recording
import Joinery.Proofs.Sql.Refusal
import Joinery.Proofs.Sql.Membership
import Joinery.Proofs.Sql.Unmapped
import Joinery.Proofs.Sql.Flipping
import Joinery.Proofs.Sql.Involution
import Joinery.Proofs.Chain.Lookup
import Joinery.Proofs.Chain.Rearrangement
import Joinery.Proofs.Text.Blank
import Joinery.Proofs.Config.Expansion
import Joinery.Proofs.Decimal.Numeral
import Joinery.Proofs.Decimal.Integral
import Joinery.Proofs.Value.Integers
import Joinery.Proofs.Connection.Abandonment
import Joinery.Connection.Datum
import Joinery.Mapping.Definition
import Joinery.Proofs.Decimal.Rounding
import Joinery.Proofs.Value.Reals
import Joinery.Proofs.Value.Typed
import Joinery.Proofs.Connection.Storage
import Joinery.Proofs.Mapping.Construction
import Joinery.Proofs.Mapping.Validation
import Joinery.Proofs.Sql.Shape
import Joinery.Proofs.Sql.Quotation
import Joinery.Proofs.Value.Reading
