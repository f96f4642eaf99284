import Scratchpad.CommandLine
import Scratchpad.CommandLine.Arguments
import Scratchpad.CommandLine.Usage
import Scratchpad.Conventions
import Scratchpad.Delivery
import Scratchpad.Echo.Expression
import Scratchpad.Echo.Language
import Scratchpad.Echo.Rules
import Scratchpad.Echo.Scan
import Scratchpad.Echo.Transform
import Scratchpad.Engine
import Scratchpad.Engine.Course
import Scratchpad.Engine.Rounds
import Scratchpad.Files
import Scratchpad.Harness
import Scratchpad.Harness.JavaScript
import Scratchpad.Harness.Php
import Scratchpad.Harness.Python
import Scratchpad.Harness.Ruby
import Scratchpad.Inspect
import Scratchpad.Json.Binary64
import Scratchpad.Json.Layout
import Scratchpad.Json.Number
import Scratchpad.Json.Quoted
import Scratchpad.Json.Token
import Scratchpad.Json.Tree
import Scratchpad.Json.Value
import Scratchpad.Language
import Scratchpad.Literal
import Scratchpad.Locator
import Scratchpad.Main
import Scratchpad.Path
import Scratchpad.Pattern
import Scratchpad.Pattern.Source
import Scratchpad.Probe
import Scratchpad.Recovery
import Scratchpad.Recovery.Braces
import Scratchpad.Recovery.Framed
import Scratchpad.Registry
import Scratchpad.Report
import Scratchpad.Report.Fields
import Scratchpad.Report.OfTree
import Scratchpad.Report.OfValue
import Scratchpad.Report.Reconcile
import Scratchpad.Request
import Scratchpad.RunId
import Scratchpad.Script
import Scratchpad.SearchPath
import Scratchpad.Session
import Scratchpad.Settings
import Scratchpad.Template
import Scratchpad.Text.Basic
import Scratchpad.Text.Blank
import Scratchpad.Text.Letter
import Scratchpad.Text.Line
import Scratchpad.Text.Utf8
import Scratchpad.Toolchain
import Scratchpad.Version
import Scratchpad.Proofs.Echo.Comment
import Scratchpad.Proofs.Engine.ScriptFile
import Scratchpad.Proofs.Engine.Signal
import Scratchpad.Proofs.Engine.Step
import Scratchpad.Proofs.Files.Directory
import Scratchpad.Proofs.Json.Numeral
import Scratchpad.Proofs.Json.Unreadable
import Scratchpad.Proofs.Json.WellFormed
import Scratchpad.Proofs.Recovery.Framing
import Scratchpad.Proofs.Recovery.Nesting
import Scratchpad.Proofs.Recovery.Truncation
import Scratchpad.Proofs.Report.WellFormed
import Scratchpad.Proofs.Script.Rendering
import Scratchpad.Proofs.Text.Search
import Scratchpad.Proofs.Text.Trim
import Scratchpad.Proofs.Probe.Search
import Scratchpad.Proofs.Echo.Line
import Scratchpad.Proofs.Echo.Probes
import Scratchpad.Proofs.Text.PrefixFree
import Scratchpad.Proofs.Script.Literal
import Scratchpad.Proofs.Script.Embedding
import Scratchpad.Proofs.Registry.Held
import Scratchpad.Session.Shared
import Scratchpad.Proofs.Engine.InFlight
import Scratchpad.Proofs.Session.Shared
import Scratchpad.Proofs.Session.Exclusive
import Scratchpad.Proofs.Session.Newest
import Scratchpad.Proofs.Recovery.Growth
import Scratchpad.Proofs.Json.Balance
import Scratchpad.Proofs.Recovery.Agreement
import Scratchpad.Proofs.Recovery.Embedded
import Scratchpad.Proofs.Echo.Repetition
import Scratchpad.Proofs.Echo.Wrapping
import Scratchpad.Proofs.Report.Reconcile
import Scratchpad.Proofs.Delivery
import Scratchpad.Proofs.Json.Compact
import Scratchpad.Proofs.Json.Value
import Scratchpad.Proofs.Report.RoundTrip
import Scratchpad.Proofs.Pattern.Matching
import Scratchpad.Proofs.Echo.Place
import Scratchpad.Proofs.Echo.Assignment
import Scratchpad.Proofs.Echo.Exchange
import Scratchpad.Proofs.Echo.Inert
import Scratchpad.Proofs.Echo.TemplateLiteral
import Scratchpad.Proofs.Probe.Occurrence
import Scratchpad.Proofs.Echo.LineEnd
import Scratchpad.Proofs.Json.DistinctKeys
import Scratchpad.Proofs.Report.Meaning
import Scratchpad.Proofs.Template.Pieces
import Scratchpad.Proofs.Version.Order
import Scratchpad.Proofs.Locator.Newest
import Scratchpad.Proofs.Recovery.Outermost
import Scratchpad.Proofs.Engine.CleanUp
import Scratchpad.Proofs.Script.LiteralEnd
