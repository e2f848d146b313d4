import HurlAssist.Api.Definition
import HurlAssist.Api.Operation
import HurlAssist.Api.Source
import HurlAssist.Api.Template
import HurlAssist.CommandLine
import HurlAssist.Config
import HurlAssist.Decimal
import HurlAssist.Digits
import HurlAssist.Disk.Basic
import HurlAssist.Disk.Tree
import HurlAssist.Document.Basic
import HurlAssist.Document.Captures
import HurlAssist.Document.KeyValues
import HurlAssist.Document.LineKind
import HurlAssist.Document.Parse
import HurlAssist.Document.Query
import HurlAssist.Document.Reading
import HurlAssist.Document.Tree
import HurlAssist.Editor.Completion
import HurlAssist.Editor.Connection
import HurlAssist.Editor.Documents
import HurlAssist.Editor.Message
import HurlAssist.Editor.Server
import HurlAssist.Editor.Signature
import HurlAssist.Editor.Symbol
import HurlAssist.Filter
import HurlAssist.Json.Basic
import HurlAssist.Json.Read
import HurlAssist.Json.Record
import HurlAssist.Json.Syntax
import HurlAssist.Json.Token
import HurlAssist.Keyed
import HurlAssist.Main
import HurlAssist.Path
import HurlAssist.Program
import HurlAssist.Proofs.Api.Choice
import HurlAssist.Proofs.Api.Decoding
import HurlAssist.Proofs.Api.Listed
import HurlAssist.Proofs.Api.Loading
import HurlAssist.Proofs.Api.Lookup
import HurlAssist.Proofs.Api.Naming
import HurlAssist.Proofs.Api.OwnText
import HurlAssist.Proofs.Api.Placeholders
import HurlAssist.Proofs.Api.WiderPaths
import HurlAssist.Proofs.Api.WrittenPaths
import HurlAssist.Proofs.Config
import HurlAssist.Proofs.Document.Block
import HurlAssist.Proofs.Document.CaptureLines
import HurlAssist.Proofs.Document.Captures
import HurlAssist.Proofs.Document.Comments
import HurlAssist.Proofs.Document.ContentLayout
import HurlAssist.Proofs.Document.ContentReading
import HurlAssist.Proofs.Document.ContentRuns
import HurlAssist.Proofs.Document.Contents
import HurlAssist.Proofs.Document.Edit
import HurlAssist.Proofs.Document.EntryLayout
import HurlAssist.Proofs.Document.Failure
import HurlAssist.Proofs.Document.FilterPlaces
import HurlAssist.Proofs.Document.Guarded
import HurlAssist.Proofs.Document.JoinedLines
import HurlAssist.Proofs.Document.KeyValues
import HurlAssist.Proofs.Document.Layout
import HurlAssist.Proofs.Document.LineExchange
import HurlAssist.Proofs.Document.LineForms
import HurlAssist.Proofs.Document.LineRange
import HurlAssist.Proofs.Document.Locality
import HurlAssist.Proofs.Document.Nesting
import HurlAssist.Proofs.Document.OnePass
import HurlAssist.Proofs.Document.Redraft
import HurlAssist.Proofs.Document.RegionTexts
import HurlAssist.Proofs.Document.RequestLayout
import HurlAssist.Proofs.Document.RequestPlaces
import HurlAssist.Proofs.Document.ResponseLayout
import HurlAssist.Proofs.Document.Scope
import HurlAssist.Proofs.Document.SectionContents
import HurlAssist.Proofs.Document.SectionLines
import HurlAssist.Proofs.Document.SectionNamePlaces
import HurlAssist.Proofs.Document.Status
import HurlAssist.Proofs.Document.Tiling
import HurlAssist.Proofs.Document.TrailingBlanks
import HurlAssist.Proofs.Document.Unfailing
import HurlAssist.Proofs.Editor.Changes
import HurlAssist.Proofs.Editor.ClientColumns
import HurlAssist.Proofs.Editor.FilterOffers
import HurlAssist.Proofs.Editor.OfferedOnce
import HurlAssist.Proofs.Editor.Offers
import HurlAssist.Proofs.Editor.OpenDocuments
import HurlAssist.Proofs.Editor.Session
import HurlAssist.Proofs.Editor.Signatures
import HurlAssist.Proofs.Editor.Startup
import HurlAssist.Proofs.Editor.Symbol
import HurlAssist.Proofs.EntryPoints
import HurlAssist.Proofs.Filter
import HurlAssist.Proofs.FirstPlaces
import HurlAssist.Proofs.Listing
import HurlAssist.Proofs.Numeral
import HurlAssist.Proofs.Path
import HurlAssist.Proofs.Span
import HurlAssist.Proofs.Text.Case
import HurlAssist.Proofs.Text.Cuts
import HurlAssist.Proofs.Text.LineEnds
import HurlAssist.Proofs.Text.OctetOrder
import HurlAssist.Proofs.Text.Octets
import HurlAssist.Proofs.Text.TrailingBlanks
import HurlAssist.Proofs.Text.Words
import HurlAssist.Span
import HurlAssist.Text.Alphanumeric
import HurlAssist.Text.Blank
import HurlAssist.Text.Case
import HurlAssist.Text.Cased
import HurlAssist.Text.CodePoints
import HurlAssist.Text.Direction
import HurlAssist.Text.Joining
import HurlAssist.Text.Lines
import HurlAssist.Text.Mark
import HurlAssist.Text.Normal
import HurlAssist.Text.Octets
import HurlAssist.Text.Parts
import HurlAssist.Text.Quoted
import HurlAssist.Url.Address
import HurlAssist.Url.Authority
import HurlAssist.Url.Basic
import HurlAssist.Url.File
import HurlAssist.Url.Host
import HurlAssist.Url.Name
import HurlAssist.Url.Name.Change
import HurlAssist.Url.Percent
import HurlAssist.Url.Punycode
import HurlAssist.Url.Segments
import HurlAssist.Yaml.Cursor
import HurlAssist.Yaml.Node.Basic
import HurlAssist.Yaml.Node.Grammar
import HurlAssist.Yaml.Scalar.Block
import HurlAssist.Yaml.Scalar.Fold
import HurlAssist.Yaml.Scalar.Plain
import HurlAssist.Yaml.Scalar.Quoted
import HurlAssist.Yaml.Scalar.Typed
import HurlAssist.Yaml.Tag
import HurlAssist.Yaml.Token.Basic
import HurlAssist.Yaml.Token.Lexer
import HurlAssist.Yaml.Value
