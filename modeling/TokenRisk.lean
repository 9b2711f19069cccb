import TokenRisk.Address
import TokenRisk.Analysis
import TokenRisk.Analyzer
import TokenRisk.Binary64.Basic
import TokenRisk.Binary64.Decimal
import TokenRisk.Binary64.Fixed
import TokenRisk.Binary64.Shortest
import TokenRisk.Bytecode.Hex
import TokenRisk.Bytecode.Instruction
import TokenRisk.Bytecode.Standard
import TokenRisk.Cache
import TokenRisk.Capability
import TokenRisk.Chain
import TokenRisk.Command
import TokenRisk.Config
import TokenRisk.Console.Arguments
import TokenRisk.Console.Markup
import TokenRisk.Console.Page
import TokenRisk.Contract
import TokenRisk.Decision
import TokenRisk.Failure
import TokenRisk.ForStd.Except
import TokenRisk.ForStd.List
import TokenRisk.History
import TokenRisk.Holders
import TokenRisk.Http.Client
import TokenRisk.Http.Explorer
import TokenRisk.Http.Message
import TokenRisk.Http.Node
import TokenRisk.Http.Script
import TokenRisk.Http.SourceText
import TokenRisk.Json.Basic
import TokenRisk.Json.Display
import TokenRisk.Json.Nesting
import TokenRisk.Json.Printer
import TokenRisk.Json.Reader
import TokenRisk.Keccak
import TokenRisk.Main
import TokenRisk.Number
import TokenRisk.Ownership
import TokenRisk.Proofs.Address
import TokenRisk.Proofs.Agreement
import TokenRisk.Proofs.Analyzer
import TokenRisk.Proofs.Answering
import TokenRisk.Proofs.Answers
import TokenRisk.Proofs.AskedChain
import TokenRisk.Proofs.Batch
import TokenRisk.Proofs.Cache
import TokenRisk.Proofs.Cancellation
import TokenRisk.Proofs.Clients
import TokenRisk.Proofs.Clock
import TokenRisk.Proofs.Consistency
import TokenRisk.Proofs.Decision
import TokenRisk.Proofs.Degradation
import TokenRisk.Proofs.Delays
import TokenRisk.Proofs.Disassembly
import TokenRisk.Proofs.Distinct
import TokenRisk.Proofs.Echo
import TokenRisk.Proofs.Extension
import TokenRisk.Proofs.FanOut
import TokenRisk.Proofs.Fragments
import TokenRisk.Proofs.Fresh
import TokenRisk.Proofs.Hex
import TokenRisk.Proofs.Isolation
import TokenRisk.Proofs.Keys
import TokenRisk.Proofs.Ledger
import TokenRisk.Proofs.LetterCase
import TokenRisk.Proofs.Lookups
import TokenRisk.Proofs.Loss
import TokenRisk.Proofs.Matching
import TokenRisk.Proofs.OncePerChain
import TokenRisk.Proofs.Places
import TokenRisk.Proofs.Punctual
import TokenRisk.Proofs.Recency
import TokenRisk.Proofs.Recovery
import TokenRisk.Proofs.Refinement
import TokenRisk.Proofs.Repetition
import TokenRisk.Proofs.Resurvey
import TokenRisk.Proofs.Rounding
import TokenRisk.Proofs.Safety
import TokenRisk.Proofs.Score
import TokenRisk.Proofs.Selectors
import TokenRisk.Proofs.Session
import TokenRisk.Proofs.Survey
import TokenRisk.Proofs.Timed
import TokenRisk.Proofs.Transparency
import TokenRisk.Proofs.Turns
import TokenRisk.Proofs.Unsourced
import TokenRisk.Proofs.Verifier
import TokenRisk.Proofs.Warnings
import TokenRisk.Proofs.WellFormed
import TokenRisk.Report
import TokenRisk.Request
import TokenRisk.Score
import TokenRisk.Setup
import TokenRisk.Sources
import TokenRisk.Sources.Table
import TokenRisk.Survey.Basic
import TokenRisk.Survey.Run
import TokenRisk.Survey.Summary
import TokenRisk.Survey.Wrapped
import TokenRisk.Text.Basic
import TokenRisk.Text.Blank
import TokenRisk.Text.Cased
import TokenRisk.Text.Digit
import TokenRisk.Text.Encoding
import TokenRisk.Text.LetterCase
import TokenRisk.Text.Numeral
import TokenRisk.Text.Printable
import TokenRisk.Text.Quoted
import TokenRisk.Text.Range
import TokenRisk.Text.Width
import TokenRisk.Text.Word
import TokenRisk.Timed.Basic
import TokenRisk.Timed.Instant
import TokenRisk.Timed.Slots
import TokenRisk.Timestamp
import TokenRisk.Verifier
import TokenRisk.Wire
import TokenRisk.Proofs.Policy
import TokenRisk.Proofs.Severity
import TokenRisk.Proofs.Surroundings
import TokenRisk.Proofs.Growth
import TokenRisk.Proofs.Sampling
import TokenRisk.Proofs.Trampoline
import TokenRisk.Proofs.Control
import TokenRisk.Proofs.Canonical
import TokenRisk.Proofs.Checksum
import TokenRisk.Proofs.Advice
import TokenRisk.Proofs.Numerals
import TokenRisk.Proofs.ChainList
import TokenRisk.Proofs.Overrides
import TokenRisk.Proofs.JsonText
import TokenRisk.Proofs.JsonPrinted
import TokenRisk.Proofs.Flattening
import TokenRisk.Proofs.Identifiers
import TokenRisk.Proofs.WireForm
import TokenRisk.Proofs.Lines
import TokenRisk.Proofs.ReportLines
import TokenRisk.Proofs.Spoofing
