import CrossShader.Adapter
import CrossShader.Arguments.Clustered
import CrossShader.Arguments.Shortened
import CrossShader.Boundaries
import CrossShader.CommandLine.Invocation
import CrossShader.CommandLine.Report
import CrossShader.Conversion
import CrossShader.Decimal.Binary64
import CrossShader.Decimal.Numeral
import CrossShader.Decimal.Shortest
import CrossShader.Diagnostics
import CrossShader.Digest
import CrossShader.Entry
import CrossShader.Fault
import CrossShader.Files
import CrossShader.Json.Basic
import CrossShader.Json.Encoding
import CrossShader.Json.Literal
import CrossShader.Json.Parser
import CrossShader.Library
import CrossShader.Library.Scripted
import CrossShader.Main
import CrossShader.Naga.Binding
import CrossShader.Naga.History
import CrossShader.Naga.Launcher
import CrossShader.Naga.Process
import CrossShader.Naga.Settings
import CrossShader.Normal.Declaration
import CrossShader.Normal.Source
import CrossShader.Requirements
import CrossShader.Selector
import CrossShader.Service.App
import CrossShader.Service.Body
import CrossShader.Service.Daemon
import CrossShader.Service.Problem
import CrossShader.Service.Session
import CrossShader.Showcase
import CrossShader.Target
import CrossShader.Text.Basic
import CrossShader.Text.Casing
import CrossShader.Text.Closeness
import CrossShader.Text.Lines
import CrossShader.Text.Printable
import CrossShader.Text.Quoted
import CrossShader.Text.Styling
import CrossShader.Text.Table
import CrossShader.Text.Utf8
import CrossShader.Text.Word
import CrossShader.Proofs.Arguments.Basic
import CrossShader.Proofs.Arguments.Clustered
import CrossShader.Proofs.Arguments.Shortened
import CrossShader.Proofs.Boundaries.Imports
import CrossShader.Proofs.CommandLine.Conversion
import CrossShader.Proofs.CommandLine.Delivery
import CrossShader.Proofs.CommandLine.Exits
import CrossShader.Proofs.CommandLine.Orders
import CrossShader.Proofs.CommandLine.Printed
import CrossShader.Proofs.CommandLine.Reports
import CrossShader.Proofs.Conversion.Course
import CrossShader.Proofs.Conversion.Digested
import CrossShader.Proofs.Conversion.Failure
import CrossShader.Proofs.Conversion.Orderly
import CrossShader.Proofs.Diagnostics.Chain
import CrossShader.Proofs.Files.Writing
import CrossShader.Proofs.Json.Showable
import CrossShader.Proofs.Library.Sharing
import CrossShader.Proofs.Naga.Defines
import CrossShader.Proofs.Naga.Launcher
import CrossShader.Proofs.Naga.Operations
import CrossShader.Proofs.Naga.Pipeline
import CrossShader.Proofs.Naga.Plan
import CrossShader.Proofs.Naga.Run
import CrossShader.Proofs.Naga.Validated
import CrossShader.Proofs.Normal.Form
import CrossShader.Proofs.Normal.LineEnds
import CrossShader.Proofs.Normal.Locations
import CrossShader.Proofs.Normal.OnePass
import CrossShader.Proofs.Normal.Passes
import CrossShader.Proofs.Normal.Remainders
import CrossShader.Proofs.Normal.Rewriting
import CrossShader.Proofs.Normal.WholeWords
import CrossShader.Proofs.Requirements.Comparison
import CrossShader.Proofs.Requirements.Writing
import CrossShader.Proofs.Service.Acceptance
import CrossShader.Proofs.Service.Answers
import CrossShader.Proofs.Service.Canonical
import CrossShader.Proofs.Service.Checked
import CrossShader.Proofs.Service.Legacy
import CrossShader.Proofs.Service.Listening
import CrossShader.Proofs.Service.Requests
import CrossShader.Proofs.Text.Blank
import CrossShader.Proofs.Text.Decoding
import CrossShader.Proofs.Text.Digits
import CrossShader.Proofs.Text.Encodable
import CrossShader.Proofs.Text.Lines
import CrossShader.Proofs.Text.Lowercase
import CrossShader.Proofs.Text.Order
import CrossShader.Proofs.Text.Renaming
import CrossShader.Proofs.Text.Runs
import CrossShader.Proofs.Text.Styling
import CrossShader.Proofs.Text.WholeWord
