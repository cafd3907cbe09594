import Bitemporal.Aggregate
import Bitemporal.Binary64.Basic
import Bitemporal.Binary64.Decimal
import Bitemporal.Binary64.Numeral
import Bitemporal.Clause.Algebra
import Bitemporal.Clause.Basic
import Bitemporal.Clause.Canonical
import Bitemporal.Clause.Text
import Bitemporal.CommandLine
import Bitemporal.Entity.Document
import Bitemporal.Entity.Type
import Bitemporal.Error
import Bitemporal.Json.Basic
import Bitemporal.Json.Number
import Bitemporal.Json.Printer
import Bitemporal.Json.Reader
import Bitemporal.Key.Binding
import Bitemporal.Key.Keys
import Bitemporal.Key.Ordering
import Bitemporal.Main
import Bitemporal.Node.Answer
import Bitemporal.Node.Client
import Bitemporal.Node.Exchange
import Bitemporal.Node.Request
import Bitemporal.Sample.Places
import Bitemporal.Sample.Schema
import Bitemporal.Session
import Bitemporal.Settings.Basic
import Bitemporal.Settings.KeyPath
import Bitemporal.Text.Blank
import Bitemporal.Text.Digits
import Bitemporal.Text.Literal
import Bitemporal.Time.Calendar
import Bitemporal.Time.Instant
import Bitemporal.Time.Timestamp
import Bitemporal.Toml.Basic
import Bitemporal.Toml.Reader
import Bitemporal.Toml.Scalar
import Bitemporal.Toml.Text
import Bitemporal.Transaction.Basic
import Bitemporal.Transaction.Operation
import Bitemporal.TypedQuery
import Bitemporal.Proofs.Edn.Form
import Bitemporal.Proofs.Edn.Written
import Bitemporal.Proofs.Clause.Condition
import Bitemporal.Proofs.Clause.Canonical
import Bitemporal.Proofs.Clause.ReadBack
import Bitemporal.Proofs.Clause.Conjunction
import Bitemporal.Proofs.TypedQuery.Calls
import Bitemporal.Proofs.TypedQuery.Constraints
import Bitemporal.Proofs.Text.Digits
import Bitemporal.Proofs.Time.Calendar
import Bitemporal.Proofs.Time.Timestamp
import Bitemporal.Proofs.Json.RoundTrip
import Bitemporal.Proofs.Entity.Writes
import Bitemporal.Proofs.Transaction.RoundTrip
import Bitemporal.Proofs.Transaction.Body
import Bitemporal.Proofs.Edn.Literal
import Bitemporal.Proofs.Session.Buffer
import Bitemporal.Proofs.Clause.Combinators
import Bitemporal.Proofs.Clause.Sections
import Bitemporal.Proofs.TypedQuery.Runs
import Bitemporal.Proofs.Key.Attachment
import Bitemporal.Proofs.TypedQuery.Routes
import Bitemporal.Proofs.Time.Accepted
import Bitemporal.Proofs.Transaction.Accepted
import Bitemporal.Proofs.TypedQuery.Attributes
import Bitemporal.Proofs.Edn.Piece
import Bitemporal.Proofs.TypedQuery.ResultRows
import Bitemporal.Proofs.Clause.QueryText
import Bitemporal.Proofs.Clause.Truth
import Bitemporal.Proofs.Clause.Disjunction
import Bitemporal.Proofs.Clause.DoubleNegation
import Bitemporal.Proofs.Clause.Fragments
import Bitemporal.Proofs.Clause.Replacement
import Bitemporal.Proofs.Clause.NormalForm
import Bitemporal.Proofs.Clause.JoinBody
import Bitemporal.Proofs.TypedQuery.Repetition
import Bitemporal.Proofs.TypedQuery.Refusals
import Bitemporal.Proofs.Key.Shapes
import Bitemporal.Proofs.Transaction.DocumentId
import Bitemporal.Proofs.Clause.Projections
import Bitemporal.Proofs.Node.Encoding
import Bitemporal.Proofs.Node.Replies
import Bitemporal.Proofs.Session.Commit
import Bitemporal.Proofs.Session.DecodedRows
import Bitemporal.Proofs.Aggregate.CallText
