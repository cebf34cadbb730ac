/-
This file holds the answers to commands.
-/
import ScriptHost.Content.Loader
import ScriptHost.Engine.Entity
import ScriptHost.Event.Bridge
import ScriptHost.File.Root
import ScriptHost.Script.Loose
import ScriptHost.Tick.Source

namespace ScriptHost.Session

inductive Problem where
  | native (error : NativeError)
  | noHandle (name : String)
  | enumeration (error : NativeError)
  | binding (error : NativeError)
  | alreadyClaimed
  | shutDown
  | script (error : Script.Error)
  | unsuitable
  deriving DecidableEq, Repr

def enumerationMessage (error : NativeError) : String :=
  s!"enumerating live entities failed: {error.message}"

def Problem.message : Problem → String
  | .native error => error.message
  | .noHandle name => name
  | .enumeration error => enumerationMessage error
  | .binding error => enumerationMessage error
  | .alreadyClaimed => "a script runtime is already attached to this engine context"
  | .shutDown => "the script runtime has been shut down"
  | .script error => error.message
  | .unsuitable => "the command does not suit the session"

structure TickReport where
  invoked : Nat
  faults : Nat
  units : Script.RunCount
  deriving DecidableEq, Repr

structure BindReport where
  scanned : Nat
  attached : Nat
  alreadyBound : Nat
  unresolved : List (Entity × String)
  pruned : Nat
  truncated : Bool
  deriving DecidableEq, Repr

structure Counts where
  systems : Nat
  behaviours : Nat
  runner : Bool
  deriving DecidableEq, Repr

structure SlotState where
  entity : Entity
  script : String
  started : Bool
  disposed : Bool
  deriving DecidableEq, Repr

inductive RuntimeState where
  | created
  | running
  | shutDown
  deriving DecidableEq, Repr

inductive Answer where
  | nothing
  | truth (value : Bool)
  | truths (values : List Bool)
  | possibleTruth (value : Option Bool)
  | count (value : Nat)
  | text (value : String)
  | possibleText (value : Option String)
  | texts (values : List String)
  | entity (value : Entity)
  | entities (values : List Entity)
  | data (entries : List (String × String))
  | interval (value : Float32)
  | route (value : Event.Route)
  | decoded (value : Option (Except Event.SizeMismatch Event.Builtin))
  | clock (value : Tick.Clock)
  | bindings (values : List (Entity × String))
  | systems (kinds : List Nat)
  | counts (value : Counts)
  | slot (value : Option SlotState)
  | ticked (report : TickReport)
  | bound (report : BindReport)
  | chain (length : Nat) (found : Bool)
  | compiled (extension : String) (compilation : Script.Compilation)
  | cache (value : Script.UnitCache)
  | caches (values : List Script.UnitCache)
  | unitRun (count : Script.RunCount) (logs : List String)
  | loaded (value : Content.Loaded)
  | definitions (values : List Content.Definition)
  | definition (value : Option Content.Definition)
  | content (quests encounters : List Content.Definition)
  | rootKind (value : Option File.RootKind)
  | rootKinds (values : List File.RootKind)
  | state (value : RuntimeState)
  | logCount (value : Nat)
  | problem (value : Problem)

end ScriptHost.Session
