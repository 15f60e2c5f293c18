import Highlighter.Buffer.Basic
import Highlighter.Buffer.Cell
import Highlighter.Buffer.Encoding
import Highlighter.Buffer.Lines
import Highlighter.Catalog.Basic
import Highlighter.Catalog.Compile
import Highlighter.Catalog.Event
import Highlighter.CharSet
import Highlighter.Console.Arguments
import Highlighter.Console.Command
import Highlighter.Console.Config
import Highlighter.Console.Error
import Highlighter.Console.Help
import Highlighter.Console.Listing
import Highlighter.Console.Notice
import Highlighter.Console.Option
import Highlighter.Console.Selection
import Highlighter.Files.Path
import Highlighter.Files.Store
import Highlighter.Json.Parser
import Highlighter.Json.Value
import Highlighter.Language.Bundled
import Highlighter.Language.Compiled.Basic
import Highlighter.Language.Compiled.Entry
import Highlighter.Language.Compiled.Values
import Highlighter.Language.Definition
import Highlighter.Language.Error
import Highlighter.Language.Extension
import Highlighter.Language.ExtensionFile
import Highlighter.Language.ExtensionMap
import Highlighter.Language.Group
import Highlighter.Language.KeywordTable
import Highlighter.Language.Source
import Highlighter.Palette.Basic
import Highlighter.Palette.Category
import Highlighter.Palette.Color
import Highlighter.Palette.Json
import Highlighter.Proofs.CharSet
import Highlighter.Proofs.Compiled.Entries
import Highlighter.Proofs.Compiled.FileName
import Highlighter.Proofs.Compiled.Lines
import Highlighter.Proofs.Compiled.RoundTrip
import Highlighter.Proofs.Compiled.Values
import Highlighter.Proofs.Language.Definition
import Highlighter.Proofs.Language.Extension
import Highlighter.Proofs.Language.KeywordTable
import Highlighter.Proofs.Result
import Highlighter.Proofs.Text.Blank
import Highlighter.Proofs.Text.Lower
import Highlighter.Proofs.Text.Number
import Highlighter.Scan.Anchors
import Highlighter.Scan.Cursor
import Highlighter.Scan.Rules
import Highlighter.Scan.Scanner
import Highlighter.Scan.Stream
import Highlighter.Scan.Token
import Highlighter.Text.Blank
import Highlighter.Text.CodeRanges
import Highlighter.Text.Lower
import Highlighter.Text.Number
import Highlighter.Text.Property.Alphabetic
import Highlighter.Text.Property.Cased
import Highlighter.Text.Property.LowerCase
import Highlighter.Text.Property.Numeric
import Highlighter.Text.Property.Printable
import Highlighter.Text.Quoted
import Highlighter.Text.Utf8
import Highlighter.Toml.Decode
import Highlighter.Toml.Document
import Highlighter.Toml.Quoted
import Highlighter.Toml.Scalar
import Highlighter.Toml.Table
import Highlighter.Toml.Value
import Highlighter.Toml.Writer
import Highlighter.Main
import Highlighter.Proofs.Scan.Rules
import Highlighter.Proofs.Scan.Stream
import Highlighter.Proofs.Scan.Scanner
import Highlighter.Proofs.Buffer.Lines
import Highlighter.Proofs.Scan.Anchors
import Highlighter.Proofs.Text.Utf8
import Highlighter.Proofs.Files.Store
import Highlighter.Proofs.Files.Path
import Highlighter.Proofs.Files.Directories
import Highlighter.Proofs.Catalog.Lookup
import Highlighter.Proofs.Catalog.Storage
import Highlighter.Proofs.Catalog.Compile
import Highlighter.Proofs.Catalog.Separation
import Highlighter.Proofs.Catalog.Agreement
import Highlighter.Proofs.Catalog.Fallback
import Highlighter.Proofs.Scan.Restart
import Highlighter.Proofs.Scan.Append
import Highlighter.Proofs.Buffer.Decode
import Highlighter.Proofs.Json.Parser
import Highlighter.Proofs.Language.ExtensionFile
import Highlighter.Proofs.Catalog.History
import Highlighter.Proofs.Catalog.Rebuild
import Highlighter.Proofs.Buffer.Recovery
import Highlighter.Proofs.Scan.LineCount
import Highlighter.Proofs.Language.Consistency
import Highlighter.Proofs.Scan.Classification
import Highlighter.Proofs.Scan.Precedence
import Highlighter.Proofs.Catalog.Resolution
import Highlighter.Proofs.Buffer.LineTexts
import Highlighter.Proofs.Buffer.LinePartition
import Highlighter.Proofs.Palette.Terminal
import Highlighter.Proofs.Console.Selection
import Highlighter.Proofs.Console.Highlight
import Highlighter.Proofs.Scan.Literal
import Highlighter.Proofs.Scan.BlockComment
import Highlighter.Proofs.Scan.Keyword
import Highlighter.Proofs.Language.Ownership
import Highlighter.Proofs.Language.CharacterSets
import Highlighter.Proofs.Scan.Runs
import Highlighter.Proofs.Scan.Number
import Highlighter.Proofs.Scan.LineAnchors
import Highlighter.Proofs.Compiled.FirstFault
import Highlighter.Proofs.Compiled.Layout
import Highlighter.Proofs.Language.FirstClaim
import Highlighter.Proofs.CharSet.FiniteSet
import Highlighter.Proofs.Language.ListedExtension
import Highlighter.Proofs.Console.PastEnd
import Highlighter.Proofs.Catalog.Sharing
import Highlighter.Proofs.Palette.Color
