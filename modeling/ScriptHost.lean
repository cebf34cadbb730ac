import ScriptHost.Bind.Declaration
import ScriptHost.CommandLine
import ScriptHost.Config
import ScriptHost.Content.Definition
import ScriptHost.Content.Loader
import ScriptHost.Content.Region
import ScriptHost.Decimal.Layout
import ScriptHost.Decimal.Shortest
import ScriptHost.Engine.Entity
import ScriptHost.Engine.Store
import ScriptHost.Event.Bridge
import ScriptHost.Event.Builtin
import ScriptHost.File.Pathname
import ScriptHost.File.Root
import ScriptHost.File.Tree
import ScriptHost.Foreign.Engine
import ScriptHost.Foreign.Session
import ScriptHost.Foreign.Table
import ScriptHost.Json.Form
import ScriptHost.Json.Number
import ScriptHost.Json.Pretty
import ScriptHost.Json.Record
import ScriptHost.Json.Value
import ScriptHost.Main
import ScriptHost.Proofs.Schedule.Chronicle
import ScriptHost.Proofs.Session.Ends
import ScriptHost.Scene.Basic
import ScriptHost.Scene.Report
import ScriptHost.Scene.Run
import ScriptHost.Schedule.Registry
import ScriptHost.Script.Arithmetic
import ScriptHost.Script.Evaluate
import ScriptHost.Script.Exchange
import ScriptHost.Script.Interface
import ScriptHost.Script.Library
import ScriptHost.Script.Loose
import ScriptHost.Script.Parser
import ScriptHost.Script.Program
import ScriptHost.Script.Token
import ScriptHost.Script.Value
import ScriptHost.Session.Answer
import ScriptHost.Session.Binding
import ScriptHost.Session.Command
import ScriptHost.Session.Events
import ScriptHost.Session.Lifecycle
import ScriptHost.Session.Perform
import ScriptHost.Session.Schedule
import ScriptHost.Session.Watching
import ScriptHost.Session.World
import ScriptHost.Text.Blank
import ScriptHost.Text.Utf8
import ScriptHost.Tick.Signal
import ScriptHost.Tick.Source
import ScriptHost.Trace
import ScriptHost.Proofs.Schedule.Story
import ScriptHost.Proofs.Schedule.Upkeep
import ScriptHost.Proofs.Session.Registries
import ScriptHost.Proofs.Schedule.Steady
import ScriptHost.Proofs.Schedule.Removal
import ScriptHost.Proofs.Schedule.Arrival
import ScriptHost.Proofs.Schedule.Management
import ScriptHost.Proofs.Schedule.Rounds
import ScriptHost.Proofs.Schedule.Turns
import ScriptHost.Proofs.Schedule.Ticking
import ScriptHost.Proofs.Schedule.Runs
import ScriptHost.Proofs.Binding.Asking
import ScriptHost.Proofs.Binding.Making
import ScriptHost.Proofs.Binding.Attaching
import ScriptHost.Proofs.Binding.Pruning
import ScriptHost.Proofs.Binding.Passes
import ScriptHost.Proofs.Binding.Looking
import ScriptHost.Proofs.Binding.Settling
import ScriptHost.Proofs.Event.Ledger
import ScriptHost.Proofs.Event.Listing
import ScriptHost.Proofs.Session.Plain
import ScriptHost.Proofs.Session.Routine
import ScriptHost.Proofs.Faults.Alike
import ScriptHost.Proofs.Faults.Worlds
import ScriptHost.Proofs.Faults.Registries
import ScriptHost.Proofs.Faults.Scheduling
import ScriptHost.Proofs.Faults.Binding
import ScriptHost.Proofs.Faults.Events
import ScriptHost.Proofs.Faults.Lifecycle
import ScriptHost.Proofs.Faults.Operations
import ScriptHost.Proofs.Faults.Runs
import ScriptHost.Proofs.Session.Together
import ScriptHost.Proofs.Shutdown.Accounts
import ScriptHost.Proofs.Shutdown.Standing
import ScriptHost.Proofs.Shutdown.Idling
import ScriptHost.Proofs.Shutdown.Writing
import ScriptHost.Proofs.Shutdown.Finishing
import ScriptHost.Proofs.Shutdown.Arriving
import ScriptHost.Proofs.Shutdown.Turning
import ScriptHost.Proofs.Shutdown.Carrying
import ScriptHost.Proofs.Shutdown.Binding
import ScriptHost.Proofs.Shutdown.Runtimes
import ScriptHost.Proofs.Shutdown.Operations
import ScriptHost.Proofs.Shutdown.Runs
import ScriptHost.Proofs.File.Spelling
import ScriptHost.Proofs.File.Listing
import ScriptHost.Proofs.File.Roots
import ScriptHost.Proofs.File.Rewriting
import ScriptHost.Proofs.Script.Sources
import ScriptHost.Proofs.Script.Reloading
import ScriptHost.Proofs.Watching.Coherence
import ScriptHost.Proofs.Edits.Current
import ScriptHost.Proofs.Event.Encoding
import ScriptHost.Proofs.Tenure.Runs
import ScriptHost.Proofs.Event.Codec
import ScriptHost.Proofs.Engine.Calls
import ScriptHost.Proofs.Tick.Runs
import ScriptHost.Proofs.Locks.Waiting
import ScriptHost.Proofs.Content.Loading
import ScriptHost.Proofs.Binding.Reloads
import ScriptHost.Proofs.Scene.Lengths
import ScriptHost.Proofs.File.Below
import ScriptHost.Proofs.Script.Naming
import ScriptHost.Proofs.Schedule.Units
import ScriptHost.Proofs.Foreign.Texts
import ScriptHost.Proofs.Foreign.Entities
import ScriptHost.Proofs.Scene.Spawning
import ScriptHost.Proofs.Script.Components
import ScriptHost.Proofs.Script.Handles
import ScriptHost.Proofs.CommandLine.Grammar
import ScriptHost.Proofs.Watching.Requests
