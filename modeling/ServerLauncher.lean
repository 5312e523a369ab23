import ServerLauncher.CommandLine.Arguments
import ServerLauncher.CommandLine.Run
import ServerLauncher.Debounce
import ServerLauncher.Digest.Checksum
import ServerLauncher.Digest.Sha256
import ServerLauncher.Distribution.Basic
import ServerLauncher.Distribution.Cache
import ServerLauncher.Distribution.Resolver
import ServerLauncher.Environment
import ServerLauncher.Error
import ServerLauncher.FileSystem.Basic
import ServerLauncher.FileSystem.Operations
import ServerLauncher.Host.Basic
import ServerLauncher.Host.Journal
import ServerLauncher.Host.Notice
import ServerLauncher.Host.Terminal
import ServerLauncher.Http.Basic
import ServerLauncher.Http.Client
import ServerLauncher.Java.Banner
import ServerLauncher.Java.Locator
import ServerLauncher.Java.Runtime
import ServerLauncher.Java.Search
import ServerLauncher.Json.Quoted
import ServerLauncher.Keyed
import ServerLauncher.Launch.Command
import ServerLauncher.Launch.Moves
import ServerLauncher.Launch.Relay
import ServerLauncher.Launch.Schedule
import ServerLauncher.Launch.State
import ServerLauncher.Main
import ServerLauncher.Path.Basic
import ServerLauncher.Path.Normal
import ServerLauncher.Proofs.Keyed
import ServerLauncher.Proofs.Debounce.Timers
import ServerLauncher.Proofs.Debounce.Course
import ServerLauncher.Proofs.Debounce.Waiting
import ServerLauncher.Proofs.Debounce.Handles
import ServerLauncher.Proofs.Debounce.Delaying
import ServerLauncher.Proofs.Distribution.Calls
import ServerLauncher.Proofs.Java.Calls
import ServerLauncher.Proofs.Java.Probing
import ServerLauncher.Proofs.Launch.Course
import ServerLauncher.Proofs.Launch.Reason
import ServerLauncher.Proofs.Launch.Replacement
import ServerLauncher.Proofs.Launch.Superseding
import ServerLauncher.Proofs.Registry.Keeping
import ServerLauncher.Proofs.Update.Record
import ServerLauncher.Proofs.World.Keeping
import ServerLauncher.Proofs.World.Record
import ServerLauncher.Proofs.World.Web
import ServerLauncher.Registry.Client
import ServerLauncher.Registry.Coordinate
import ServerLauncher.Registry.Download
import ServerLauncher.Registry.Metadata
import ServerLauncher.Registry.MetadataCache
import ServerLauncher.Settings.Basic
import ServerLauncher.Settings.Decode
import ServerLauncher.Settings.Load
import ServerLauncher.Settings.Store
import ServerLauncher.Settled
import ServerLauncher.Text.Blank
import ServerLauncher.Text.Mark
import ServerLauncher.Text.Number
import ServerLauncher.Text.Pieces
import ServerLauncher.Text.Table
import ServerLauncher.Text.Utf8
import ServerLauncher.Toml.Bare
import ServerLauncher.Toml.Basic
import ServerLauncher.Toml.Document
import ServerLauncher.Toml.Lexeme
import ServerLauncher.Toml.Statement
import ServerLauncher.Update
import ServerLauncher.Url.Address
import ServerLauncher.Url.Basic
import ServerLauncher.Url.Domain
import ServerLauncher.Url.Domain.Composition
import ServerLauncher.Url.Domain.Direction
import ServerLauncher.Url.Domain.Joining
import ServerLauncher.Url.Domain.Label
import ServerLauncher.Url.Domain.Mapping
import ServerLauncher.Url.Parser
import ServerLauncher.Url.Percent
import ServerLauncher.Url.Punycode
import ServerLauncher.Version.Basic
import ServerLauncher.Version.Grammar
import ServerLauncher.World
import ServerLauncher.Proofs.Text.Number
import ServerLauncher.Proofs.Settings.Loading
import ServerLauncher.Proofs.Text.Pieces
import ServerLauncher.Proofs.Version.Reading
import ServerLauncher.Proofs.Json.Quoted
import ServerLauncher.Proofs.Version.Canonical
import ServerLauncher.Proofs.FileSystem.Walk
import ServerLauncher.Proofs.Version.Order
import ServerLauncher.Proofs.Distribution.Cache
import ServerLauncher.Proofs.Distribution.Selection
import ServerLauncher.Proofs.FileSystem.Elsewhere
import ServerLauncher.Proofs.FileSystem.Growth
import ServerLauncher.Proofs.FileSystem.Operations
import ServerLauncher.Proofs.FileSystem.Staging
import ServerLauncher.Proofs.FileSystem.Writing
import ServerLauncher.Proofs.Registry.Commit
import ServerLauncher.Proofs.Registry.Delivery
import ServerLauncher.Proofs.Registry.Transfer
import ServerLauncher.Proofs.Registry.Atomicity
import ServerLauncher.Proofs.Registry.Inquiry
import ServerLauncher.Proofs.Registry.Remembering
import ServerLauncher.Proofs.Update.Registries
import ServerLauncher.Proofs.Registry.Lookup
import ServerLauncher.Proofs.Registry.Asking
import ServerLauncher.Proofs.World.Trip
import ServerLauncher.Proofs.Registry.Latest
import ServerLauncher.Proofs.Update.Footprint
import ServerLauncher.Proofs.Update.Checking
import ServerLauncher.Proofs.Update.Fetching
import ServerLauncher.Proofs.Update.Resolving
import ServerLauncher.Proofs.Launch.Work
import ServerLauncher.Proofs.Launch.Reconfiguring
import ServerLauncher.Proofs.Launch.Renewal
import ServerLauncher.Proofs.Update.Offering
import ServerLauncher.Proofs.Launch.Calming
import ServerLauncher.Proofs.Update.Declining
import ServerLauncher.Proofs.Launch.Command
import ServerLauncher.Proofs.Path.Expanding
import ServerLauncher.Proofs.Java.Configured
import ServerLauncher.Proofs.Launch.Ending
import ServerLauncher.Proofs.Launch.Starting
import ServerLauncher.Proofs.CommandLine.Independence
import ServerLauncher.Proofs.CommandLine.Launching
import ServerLauncher.Proofs.Launch.Watching
import ServerLauncher.Proofs.Launch.Heeding
import ServerLauncher.Proofs.CommandLine.Checking
import ServerLauncher.Proofs.CommandLine.Stages
import ServerLauncher.Proofs.CommandLine.Stdio
import ServerLauncher.Proofs.CommandLine.Noticing
import ServerLauncher.Proofs.Java.Locating
import ServerLauncher.Proofs.Distribution.Listing
import ServerLauncher.Proofs.Path.Sameness
import ServerLauncher.Proofs.Settings.Changing
import ServerLauncher.Proofs.Text.Fronts
import ServerLauncher.Proofs.Distribution.Telling
import ServerLauncher.Proofs.Path.Repeating
import ServerLauncher.Proofs.Registry.Elements
import ServerLauncher.Proofs.Settings.Normalizing
import ServerLauncher.Proofs.Text.Ascii
import ServerLauncher.Proofs.Url.Addresses
import ServerLauncher.Proofs.Url.Authority
import ServerLauncher.Proofs.Url.Directories
import ServerLauncher.Proofs.Registry.Places
import ServerLauncher.Proofs.Settled.Channel
import ServerLauncher.Proofs.Launch.Announcing
import ServerLauncher.Proofs.Launch.Relaying
import ServerLauncher.Proofs.Update.Converging
import ServerLauncher.Proofs.Version.Compatibility
import ServerLauncher.Proofs.Java.Banner
