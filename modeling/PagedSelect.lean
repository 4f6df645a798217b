import PagedSelect.Calendar.Basic
import PagedSelect.Calendar.Epoch
import PagedSelect.Calendar.Reader
import PagedSelect.Calendar.Rfc3339
import PagedSelect.Engine.Config
import PagedSelect.Engine.Run
import PagedSelect.Engine.Translator
import PagedSelect.Entity
import PagedSelect.Failure
import PagedSelect.Filter.Registry
import PagedSelect.Filter.Rules
import PagedSelect.Filter.Strategy
import PagedSelect.Identifier
import PagedSelect.Keyed
import PagedSelect.Number.Decimal
import PagedSelect.Number.Double
import PagedSelect.Number.Numeral
import PagedSelect.Number.Quantity
import PagedSelect.Number.Rounding
import PagedSelect.Number.Shortest
import PagedSelect.Page.Metadata
import PagedSelect.Page.Window
import PagedSelect.Proofs.Engine.Counting
import PagedSelect.Proofs.Engine.Envelope
import PagedSelect.Proofs.Engine.Exchange
import PagedSelect.Proofs.Engine.Lenient
import PagedSelect.Proofs.Engine.Noninterference
import PagedSelect.Proofs.Engine.Page
import PagedSelect.Proofs.Engine.ParamPages
import PagedSelect.Proofs.Engine.Steps
import PagedSelect.Proofs.Engine.Strict
import PagedSelect.Proofs.Engine.Success
import PagedSelect.Proofs.Engine.Whitelist
import PagedSelect.Proofs.Engine.Window
import PagedSelect.Proofs.Filter.History
import PagedSelect.Proofs.Filter.Meaning
import PagedSelect.Proofs.Filter.Noninterference
import PagedSelect.Proofs.Filter.Precedence
import PagedSelect.Proofs.Filter.Registry
import PagedSelect.Proofs.Filter.Reordering
import PagedSelect.Proofs.Filter.Standard
import PagedSelect.Proofs.Filter.Strict
import PagedSelect.Proofs.Filter.Whitelist
import PagedSelect.Proofs.Identifier
import PagedSelect.Proofs.Identifier.Grammar
import PagedSelect.Proofs.Keyed
import PagedSelect.Proofs.Number.Numeral
import PagedSelect.Proofs.Number.Rounding
import PagedSelect.Proofs.Outcome
import PagedSelect.Proofs.Page.Metadata
import PagedSelect.Proofs.Page.Walk
import PagedSelect.Proofs.Page.Window
import PagedSelect.Proofs.Rejection
import PagedSelect.Proofs.Request.ParamReading
import PagedSelect.Proofs.Request.Params
import PagedSelect.Proofs.Request.Reading
import PagedSelect.Proofs.Request.Report
import PagedSelect.Proofs.Request.Wire
import PagedSelect.Proofs.Select.Blank
import PagedSelect.Proofs.Select.Change
import PagedSelect.Proofs.Select.Effect
import PagedSelect.Proofs.Select.Interleaving
import PagedSelect.Proofs.Select.Invariant
import PagedSelect.Proofs.Select.Names
import PagedSelect.Proofs.Select.Parameters
import PagedSelect.Proofs.Select.Readable
import PagedSelect.Proofs.Select.Renumbering
import PagedSelect.Proofs.Select.Token
import PagedSelect.Proofs.Select.Unambiguous
import PagedSelect.Proofs.Session
import PagedSelect.Proofs.Sort
import PagedSelect.Proofs.Sort.Reading
import PagedSelect.Proofs.Sort.Spelling
import PagedSelect.Proofs.Text.Mention
import PagedSelect.Proofs.Text.Pieces
import PagedSelect.Proofs.Text.Token
import PagedSelect.Proofs.Value.Json
import PagedSelect.Proofs.Whitelist
import PagedSelect.Rejection
import PagedSelect.Request.Basic
import PagedSelect.Request.Issue
import PagedSelect.Request.Params
import PagedSelect.Request.Reading
import PagedSelect.Request.Wire
import PagedSelect.Request.Writing
import PagedSelect.Result
import PagedSelect.Row.Mapper
import PagedSelect.Row.Moment
import PagedSelect.Row.Schema
import PagedSelect.Search
import PagedSelect.Select.Basic
import PagedSelect.Select.Build
import PagedSelect.Select.Clause
import PagedSelect.Select.Text
import PagedSelect.Session
import PagedSelect.Sort
import PagedSelect.Text.Blank
import PagedSelect.Text.Camel
import PagedSelect.Text.Capital
import PagedSelect.Text.Digit
import PagedSelect.Text.Printable
import PagedSelect.Text.Quoted
import PagedSelect.Text.Similar
import PagedSelect.Text.Utf8
import PagedSelect.Traced
import PagedSelect.Value.Basic
import PagedSelect.Value.Text
import PagedSelect.Value.Whole
import PagedSelect.Value.Wire
import PagedSelect.Whitelist
