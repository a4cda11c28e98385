import KontaktScript.Builtin.Basic
import KontaktScript.Builtin.Bundled
import KontaktScript.Builtin.Catalogue
import KontaktScript.Builtin.Listing
import KontaktScript.Builtin.Signature
import KontaktScript.Decimal.Shortest
import KontaktScript.Declaration.Basic
import KontaktScript.Declaration.Form
import KontaktScript.Declaration.Scan
import KontaktScript.Document
import KontaktScript.Domain.Basic
import KontaktScript.Domain.Label
import KontaktScript.Domain.Mapping
import KontaktScript.Domain.MappingTable
import KontaktScript.Domain.Punycode
import KontaktScript.Feature.Completion
import KontaktScript.Feature.Definition
import KontaktScript.Feature.Hover
import KontaktScript.Feature.Outline
import KontaktScript.Feature.Reference
import KontaktScript.Json.Basic
import KontaktScript.Json.Check
import KontaktScript.Json.Decode
import KontaktScript.Json.Dump
import KontaktScript.Json.Number
import KontaktScript.Json.Printer
import KontaktScript.Json.Reader
import KontaktScript.Language
import KontaktScript.Main
import KontaktScript.Position
import KontaktScript.Protocol.Abilities
import KontaktScript.Protocol.Introduction
import KontaktScript.Protocol.Message
import KontaktScript.Protocol.Notice
import KontaktScript.Protocol.Query
import KontaktScript.Protocol.Wire
import KontaktScript.Server.Action
import KontaktScript.Server.Conversation
import KontaktScript.Server.Fault
import KontaktScript.Server.Lifecycle
import KontaktScript.Server.Notice
import KontaktScript.Server.Process
import KontaktScript.Server.Query
import KontaktScript.Server.State
import KontaktScript.Server.Store
import KontaktScript.Settings
import KontaktScript.Symbol.Attributes
import KontaktScript.Symbol.Kind
import KontaktScript.Text.Canonical.Form
import KontaktScript.Text.Canonical.Table
import KontaktScript.Text.CodePoints
import KontaktScript.Text.Direction
import KontaktScript.Text.Hex
import KontaktScript.Text.Joining
import KontaktScript.Text.Line
import KontaktScript.Text.Mark
import KontaktScript.Text.Occurrence
import KontaktScript.Text.Pattern
import KontaktScript.Text.Quoted
import KontaktScript.Text.Split
import KontaktScript.Text.Unshown
import KontaktScript.Text.Utf16
import KontaktScript.Token
import KontaktScript.Uri.Address
import KontaktScript.Uri.Authority
import KontaktScript.Uri.Basic
import KontaktScript.Uri.Path
import KontaktScript.Uri.Percent
import KontaktScript.Uri.Scheme
import KontaktScript.Word
import KontaktScript.Proofs.Json
import KontaktScript.Proofs.Dispatch
import KontaktScript.Proofs.Encoding
import KontaktScript.Proofs.Reply
import KontaktScript.Proofs.Upkeep
import KontaktScript.Proofs.Run
import KontaktScript.Proofs.Answers
import KontaktScript.Proofs.History
import KontaktScript.Proofs.Scan
import KontaktScript.Proofs.Word
import KontaktScript.Proofs.Extent
import KontaktScript.Proofs.Excerpt
import KontaktScript.Proofs.Occurrence
import KontaktScript.Proofs.Token
import KontaktScript.Proofs.Column
import KontaktScript.Proofs.RoundTrip
import KontaktScript.Proofs.Identifier
import KontaktScript.Proofs.Definition
import KontaktScript.Proofs.Isolation
import KontaktScript.Proofs.Session
import KontaktScript.Proofs.Correspondence
import KontaktScript.Proofs.Configuration
import KontaktScript.Proofs.Disconnection
import KontaktScript.Proofs.Outline
import KontaktScript.Proofs.Pattern
import KontaktScript.Proofs.Grammar
import KontaktScript.Proofs.Form
import KontaktScript.Proofs.Rendering
import KontaktScript.Proofs.Exclusion
import KontaktScript.Proofs.Reading
import KontaktScript.Proofs.Resolution
import KontaktScript.Proofs.Agreement
import KontaktScript.Proofs.Location
import KontaktScript.Proofs.Coherence
import KontaktScript.Proofs.Completion
import KontaktScript.Proofs.Offer
import KontaktScript.Proofs.LineEnding
import KontaktScript.Proofs.Capture
import KontaktScript.Proofs.Catalogue
import KontaktScript.Proofs.Listing
import KontaktScript.Proofs.Signature
import KontaktScript.Proofs.Flaw
