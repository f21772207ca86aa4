import PluginHost.Action
import PluginHost.Catalogue
import PluginHost.Config.Basic
import PluginHost.Config.Override
import PluginHost.Controller
import PluginHost.Factory.Basic
import PluginHost.Factory.Instantiator
import PluginHost.Factory.Workshop
import PluginHost.Files
import PluginHost.Files.Tree
import PluginHost.Holder
import PluginHost.Hook
import PluginHost.Host
import PluginHost.Library.Folder
import PluginHost.Library.Image
import PluginHost.Library.Location
import PluginHost.Library.Name
import PluginHost.Log
import PluginHost.Log.Entries
import PluginHost.Log.Selection
import PluginHost.Main
import PluginHost.Manager.Basic
import PluginHost.Manager.Export
import PluginHost.Manager.Heartbeat
import PluginHost.Manager.Scripted
import PluginHost.Namespace
import PluginHost.Number.Nearest
import PluginHost.Path
import PluginHost.Platform
import PluginHost.PluginError
import PluginHost.Proofs.Controller.Crew
import PluginHost.Proofs.Controller.Phases
import PluginHost.Proofs.Controller.Release
import PluginHost.Proofs.History
import PluginHost.Proofs.Namespace
import PluginHost.Proofs.Platform.Loading
import PluginHost.Proofs.Platform.Mooring
import PluginHost.Proofs.Platform.Order
import PluginHost.Proofs.Platform.Outliving
import PluginHost.Proofs.Registry.Clearing
import PluginHost.Proofs.Registry.Exact
import PluginHost.Proofs.Registry.Index
import PluginHost.Proofs.Registry.Indexed
import PluginHost.Proofs.Registry.Ledger
import PluginHost.Proofs.Registry.Request
import PluginHost.Proofs.Runtime.Call
import PluginHost.Proofs.Runtime.Calm
import PluginHost.Proofs.Runtime.Chronicle
import PluginHost.Proofs.Runtime.Lifecycle
import PluginHost.Proofs.Runtime.Living
import PluginHost.Proofs.Runtime.Progress
import PluginHost.Proofs.Runtime.Story
import PluginHost.Registry.Basic
import PluginHost.Registry.Index
import PluginHost.Registry.Parcel
import PluginHost.Registry.Race
import PluginHost.Registry.Report
import PluginHost.Runtime
import PluginHost.Settings
import PluginHost.Text.Blank
import PluginHost.Text.CharSet
import PluginHost.Text.Control
import PluginHost.Text.Hex
import PluginHost.Text.Hidden
import PluginHost.Text.Letter
import PluginHost.Text.Pattern
import PluginHost.Text.Pattern.Basic
import PluginHost.Text.Pattern.Encoding
import PluginHost.Text.Pattern.Fault
import PluginHost.Text.Pattern.Machine
import PluginHost.Text.Pattern.Meaning
import PluginHost.Text.Pattern.Normal
import PluginHost.Text.Pattern.Reader
import PluginHost.Text.Pattern.Shelf
import PluginHost.Text.Pattern.Spelling
import PluginHost.Text.Pattern.Tree
import PluginHost.Text.Quoted
import PluginHost.Toml.Document
import PluginHost.Toml.Moment
import PluginHost.Toml.Node
import PluginHost.Toml.Number
import PluginHost.Toml.Tagged
import PluginHost.Toml.Text
import PluginHost.Toml.Typed
import PluginHost.Toml.Value
import PluginHost.TypeKey
import PluginHost.Proofs.Registry.Contents
import PluginHost.Proofs.Registry.Yard
import PluginHost.Proofs.Controller.Roster
import PluginHost.Proofs.Registry.Cascade
import PluginHost.Proofs.Platform.Pairing
import PluginHost.Proofs.Runtime.Pairing
import PluginHost.Proofs.Runtime.Farewell
import PluginHost.Proofs.Controller.Interruption
import PluginHost.Proofs.Platform.Interruption
import PluginHost.Proofs.Platform.Passage
import PluginHost.Proofs.Runtime.Parts
import PluginHost.Proofs.Runtime.Briefing
import PluginHost.Proofs.Runtime.Teardown
import PluginHost.Proofs.Path.Name
import PluginHost.Proofs.Path.Order
import PluginHost.Proofs.Library.Name
import PluginHost.Proofs.Library.Folder
import PluginHost.Proofs.Platform.Discovery
import PluginHost.Proofs.Registry.Race
import PluginHost.Proofs.Factory.Contents
import PluginHost.Proofs.Factory.Balance
import PluginHost.Proofs.Platform.Admission
import PluginHost.Proofs.Platform.Errand
import PluginHost.Proofs.Platform.Numbering
import PluginHost.Proofs.Controller.Staff
import PluginHost.Proofs.Controller.Dismissal
import PluginHost.Proofs.Platform.Rediscovery
import PluginHost.Proofs.Platform.RoundTrip
import PluginHost.Proofs.Registry.Piecemeal
import PluginHost.Proofs.Factory.Flattening
import PluginHost.Proofs.Factory.Lineage
import PluginHost.Proofs.Controller.Downcast
import PluginHost.Proofs.Text.Split
import PluginHost.Proofs.Toml.Walk
import PluginHost.Proofs.Settings.Lookup
import PluginHost.Proofs.Text.Trim
import PluginHost.Proofs.Config.Override
import PluginHost.Proofs.Library.Spelling
import PluginHost.Proofs.Runtime.Custody
import PluginHost.Proofs.Runtime.Frames
import PluginHost.Proofs.Host.Frames
import PluginHost.Proofs.TypeKey
import PluginHost.Proofs.Manager.Heartbeat
import PluginHost.Proofs.Namespace.Packing
