import Banana.Backend.Config
import Banana.Backend.Endpoint
import Banana.Backend.Failure
import Banana.Backend.Retry
import Banana.Character.CombiningClass
import Banana.Character.Composite
import Banana.Character.Direction
import Banana.Character.Joining
import Banana.Character.Mark
import Banana.Character.Table
import Banana.CommandLine.Arguments
import Banana.CommandLine.Run
import Banana.Completion.Candidate
import Banana.Completion.Context
import Banana.Completion.Resolve
import Banana.Decimal.Shortest
import Banana.Grammar.Basic
import Banana.Grammar.Editor
import Banana.Grammar.Language
import Banana.Grammar.Ready
import Banana.Grammar.TokenClass
import Banana.Grammar.Wire
import Banana.Highlight.Scan
import Banana.Highlight.Token
import Banana.Http.Client
import Banana.Http.Exchange
import Banana.Http.Message
import Banana.Json.Decode
import Banana.Json.Node
import Banana.Json.Number
import Banana.Json.Token
import Banana.Json.Value
import Banana.Json.Write
import Banana.Main
import Banana.Pattern.Basic
import Banana.Pattern.Match
import Banana.Pattern.Parse
import Banana.Pattern.Token
import Banana.Proofs.Backend.BelowBase
import Banana.Proofs.Backend.LastAttempt
import Banana.Proofs.Completion.Classification
import Banana.Proofs.Completion.CursorLine
import Banana.Proofs.Completion.Descent
import Banana.Proofs.Completion.Forms
import Banana.Proofs.Completion.Members
import Banana.Proofs.Completion.Paths
import Banana.Proofs.Completion.Patterns
import Banana.Proofs.Completion.Segments
import Banana.Proofs.Completion.Skeletons
import Banana.Proofs.Completion.Tails
import Banana.Proofs.Completion.Walks
import Banana.Proofs.Grammar.Acceptance
import Banana.Proofs.Grammar.Inclusions
import Banana.Proofs.Grammar.Inlining
import Banana.Proofs.Highlight.Anchored
import Banana.Proofs.Highlight.Applications
import Banana.Proofs.Highlight.Coordinates
import Banana.Proofs.Highlight.Keywords
import Banana.Proofs.Highlight.Lockstep
import Banana.Proofs.Highlight.Moments
import Banana.Proofs.Highlight.Passages
import Banana.Proofs.Highlight.Pieces
import Banana.Proofs.Highlight.Tiling
import Banana.Proofs.Http.Attempts
import Banana.Proofs.Json.Decoded
import Banana.Proofs.Json.Fields
import Banana.Proofs.Json.Results
import Banana.Proofs.Json.Tokens
import Banana.Proofs.Json.Tree
import Banana.Proofs.Json.Written
import Banana.Proofs.Language.Agreement
import Banana.Proofs.Language.ComponentNames
import Banana.Proofs.Language.Coverage
import Banana.Proofs.Language.Direct
import Banana.Proofs.Language.Keywords
import Banana.Proofs.Language.LineEnds
import Banana.Proofs.Language.Numbers
import Banana.Proofs.Language.RepeatedNames
import Banana.Proofs.Language.Rules
import Banana.Proofs.Language.StringEnds
import Banana.Proofs.Language.Strings
import Banana.Proofs.Language.Symbols
import Banana.Proofs.Language.Words
import Banana.Proofs.Pattern.Enclosed
import Banana.Proofs.Pattern.Reach
import Banana.Proofs.Pattern.Run
import Banana.Proofs.Pattern.Travel
import Banana.Proofs.Pattern.Ways
import Banana.Proofs.Report.ReadBack
import Banana.Proofs.Report.Underline
import Banana.Proofs.Schema.Alike
import Banana.Proofs.Schema.Decoded
import Banana.Proofs.Schema.Members
import Banana.Proofs.Schema.ReadBack
import Banana.Proofs.Schema.TableHistory
import Banana.Proofs.Session.Flights
import Banana.Proofs.Session.History
import Banana.Proofs.Session.LoadedCatalog
import Banana.Proofs.Session.NewestReport
import Banana.Proofs.Session.NewestTable
import Banana.Proofs.Session.OneCall
import Banana.Proofs.Session.RoundTrips
import Banana.Proofs.Session.Tasks
import Banana.Proofs.Source.Places
import Banana.Proofs.Stub.Connection
import Banana.Proofs.Stub.Retries
import Banana.Proofs.Stub.Stored
import Banana.Proofs.Text.Utf8
import Banana.Proofs.Url.Places
import Banana.Proofs.Url.Route
import Banana.Proofs.Wire.Readers
import Banana.Proofs.Wire.Respelled
import Banana.Proofs.Wire.RoundTrip
import Banana.Proofs.Wire.Slots
import Banana.Proofs.Wire.Spelling
import Banana.Report.Marker
import Banana.Report.Remark
import Banana.Report.Render
import Banana.Report.Wire
import Banana.Schema.Catalog
import Banana.Schema.TypeTable
import Banana.Schema.ValueType
import Banana.Schema.Wire
import Banana.Session.Basic
import Banana.Session.Online
import Banana.Session.Task
import Banana.Session.Trip
import Banana.Source.File
import Banana.Source.Span
import Banana.Stub.Basic
import Banana.Stub.Network
import Banana.Stub.Samples
import Banana.Text.Blank
import Banana.Text.Bytes
import Banana.Text.Composed
import Banana.Text.Hexadecimal
import Banana.Text.Lines
import Banana.Text.Quoted
import Banana.Text.Replace
import Banana.Text.Split
import Banana.Text.Unseen
import Banana.Text.Utf8
import Banana.Url.Address
import Banana.Url.Basic
import Banana.Url.Domain
import Banana.Url.Domain.Label
import Banana.Url.Domain.Letter
import Banana.Url.Domain.Meaning
import Banana.Url.Domain.OneWay
import Banana.Url.Domain.Refused
import Banana.Url.Domain.Spelling
import Banana.Url.Host
import Banana.Url.Parse
import Banana.Url.Path
import Banana.Url.Percent
import Banana.Url.Punycode
