import EmitBridge.Catalog
import EmitBridge.Check.Basic
import EmitBridge.Check.Kind
import EmitBridge.Check.Record
import EmitBridge.Check.Response
import EmitBridge.Check.Scalar
import EmitBridge.Cli.Arguments
import EmitBridge.Cli.Command
import EmitBridge.Cli.Config
import EmitBridge.Cli.Delivery
import EmitBridge.Cli.Flags
import EmitBridge.Cli.Help
import EmitBridge.Cli.Request
import EmitBridge.Cli.Status
import EmitBridge.Digest.Sha256
import EmitBridge.Emit.Result
import EmitBridge.Emit.Stages
import EmitBridge.EmitError
import EmitBridge.Engine.Basic
import EmitBridge.Engine.Lookup
import EmitBridge.Engine.Sample
import EmitBridge.Failure
import EmitBridge.FilePath.Posix
import EmitBridge.FilePath.Win32
import EmitBridge.Http.Exchange
import EmitBridge.Http.Relative
import EmitBridge.Http.Target
import EmitBridge.ImportMap.Resolve
import EmitBridge.ImportMap.Serialized
import EmitBridge.Json.Basic
import EmitBridge.Json.Parser
import EmitBridge.Json.Printer
import EmitBridge.Json.Sorted
import EmitBridge.Load.Bridge
import EmitBridge.Load.Cache
import EmitBridge.Load.Concurrent
import EmitBridge.Load.Fetch
import EmitBridge.Location
import EmitBridge.Log.Line
import EmitBridge.Main
import EmitBridge.Markup.Console
import EmitBridge.Markup.Render
import EmitBridge.Markup.Style
import EmitBridge.Model.Basic
import EmitBridge.Model.Violation
import EmitBridge.Number.Decimal
import EmitBridge.Number.Float
import EmitBridge.Number.Shortest
import EmitBridge.Options.Compiler
import EmitBridge.Proofs.Check.Field
import EmitBridge.Proofs.Cli.Answered
import EmitBridge.Proofs.Cli.Arguments
import EmitBridge.Proofs.Cli.Channels
import EmitBridge.Proofs.Cli.Config
import EmitBridge.Proofs.Cli.Contained
import EmitBridge.Proofs.Cli.Delivery
import EmitBridge.Proofs.Cli.Files
import EmitBridge.Proofs.Cli.Lookup
import EmitBridge.Proofs.Cli.Modules
import EmitBridge.Proofs.Cli.Options
import EmitBridge.Proofs.Cli.Override
import EmitBridge.Proofs.Cli.Parcel
import EmitBridge.Proofs.Cli.Sources
import EmitBridge.Proofs.Cli.Status
import EmitBridge.Proofs.Cli.Verbatim
import EmitBridge.Proofs.Emit.Failures
import EmitBridge.Proofs.Emit.Ignored
import EmitBridge.Proofs.Emit.Offline
import EmitBridge.Proofs.Emit.SourceMaps
import EmitBridge.Proofs.Emit.StageOrder
import EmitBridge.Proofs.Engine.Lookup
import EmitBridge.Proofs.Engine.Named
import EmitBridge.Proofs.FilePath.Chars
import EmitBridge.Proofs.FilePath.Drive
import EmitBridge.Proofs.FilePath.Host
import EmitBridge.Proofs.FilePath.Joined
import EmitBridge.Proofs.FilePath.Normal
import EmitBridge.Proofs.FilePath.Share
import EmitBridge.Proofs.FilePath.Spelled
import EmitBridge.Proofs.FilePath.Uri
import EmitBridge.Proofs.Http.Exchange
import EmitBridge.Proofs.Http.Normal
import EmitBridge.Proofs.Http.Quote
import EmitBridge.Proofs.Http.Written
import EmitBridge.Proofs.ImportMap.Base
import EmitBridge.Proofs.ImportMap.Failures
import EmitBridge.Proofs.ImportMap.Loaded
import EmitBridge.Proofs.ImportMap.Lossless
import EmitBridge.Proofs.ImportMap.Request
import EmitBridge.Proofs.ImportMap.Shape
import EmitBridge.Proofs.Json.Entries
import EmitBridge.Proofs.Json.Grammar
import EmitBridge.Proofs.Json.Lines
import EmitBridge.Proofs.Json.Recognizer
import EmitBridge.Proofs.Json.Scalars
import EmitBridge.Proofs.Json.Spelling
import EmitBridge.Proofs.Json.Strings
import EmitBridge.Proofs.Load.CachePath
import EmitBridge.Proofs.Load.Decision
import EmitBridge.Proofs.Load.Effects
import EmitBridge.Proofs.Load.Files
import EmitBridge.Proofs.Load.Identity
import EmitBridge.Proofs.Load.Interleaving
import EmitBridge.Proofs.Load.Metadata
import EmitBridge.Proofs.Load.Normalized
import EmitBridge.Proofs.Load.Offline
import EmitBridge.Proofs.Load.Refusals
import EmitBridge.Proofs.Load.Together
import EmitBridge.Proofs.Location.Again
import EmitBridge.Proofs.Location.Based
import EmitBridge.Proofs.Location.Closed
import EmitBridge.Proofs.Location.Driven
import EmitBridge.Proofs.Location.Joined
import EmitBridge.Proofs.Location.Rooted
import EmitBridge.Proofs.Location.Route
import EmitBridge.Proofs.Location.Written
import EmitBridge.Proofs.Markup.Console
import EmitBridge.Proofs.Markup.Literal
import EmitBridge.Proofs.Options.Call
import EmitBridge.Proofs.Options.Compiler
import EmitBridge.Proofs.Options.Forwarded
import EmitBridge.Proofs.Run.Attributes
import EmitBridge.Proofs.Run.Differ
import EmitBridge.Proofs.Run.Nested
import EmitBridge.Proofs.Run.Result
import EmitBridge.Proofs.Run.Span
import EmitBridge.Proofs.Run.Trace
import EmitBridge.Proofs.Run.Transparent
import EmitBridge.Proofs.Settings.Sources
import EmitBridge.Proofs.Text.Case
import EmitBridge.Proofs.Text.CodePoint
import EmitBridge.Proofs.Text.Cut
import EmitBridge.Proofs.Text.Decimal
import EmitBridge.Proofs.Text.Emoji
import EmitBridge.Proofs.Text.Escape
import EmitBridge.Proofs.Text.Hex
import EmitBridge.Proofs.Text.Percent
import EmitBridge.Proofs.Text.Utf8
import EmitBridge.Proofs.Url.Authority
import EmitBridge.Proofs.Url.Directory
import EmitBridge.Proofs.Url.Dots
import EmitBridge.Proofs.Url.Host
import EmitBridge.Proofs.Url.Ip
import EmitBridge.Proofs.Url.Normal
import EmitBridge.Proofs.Url.Parent
import EmitBridge.Proofs.Url.Reread
import EmitBridge.Proofs.Url.Split
import EmitBridge.Proofs.Value.Bare
import EmitBridge.Proofs.World.Access
import EmitBridge.Proofs.World.Place
import EmitBridge.Run.Basic
import EmitBridge.Run.Span
import EmitBridge.Settings.Basic
import EmitBridge.Settings.EnvFile
import EmitBridge.Text.Basic
import EmitBridge.Text.Case
import EmitBridge.Text.Cut
import EmitBridge.Text.Decimal
import EmitBridge.Text.Emoji
import EmitBridge.Text.Emoji.Names
import EmitBridge.Text.Escape
import EmitBridge.Text.Hex
import EmitBridge.Text.Percent
import EmitBridge.Text.Printable
import EmitBridge.Text.Quoted
import EmitBridge.Text.Utf8
import EmitBridge.Url.Basic
import EmitBridge.Url.Directory
import EmitBridge.Url.Ip
import EmitBridge.Value
import EmitBridge.Value.Dumped
import EmitBridge.Value.Members
import EmitBridge.Value.Pairs
import EmitBridge.Value.Shown
import EmitBridge.Value.ToJson
import EmitBridge.World.Basic
