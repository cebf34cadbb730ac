/-
This file turns the calls of a table into an engine. Answers of unknown length are read into buffers
that grow until the answer fits.
-/
import ScriptHost.Foreign.Table
import ScriptHost.Text.Utf8

namespace ScriptHost.Foreign

/-- The first buffer for a text has this many bytes. -/
def textRoom : Nat := 256

/-- The first buffer for entities has this many places at most. -/
def entityRoom : Nat := 1024

/-- An answer that still does not fit after so many calls is given up. -/
def attempts : Nat := 4

/-- A buffer starts out filled with zeros. -/
def filled {α : Type} (zero : α) (length : Nat) (written : List α) : List α :=
  written.take length ++ List.replicate (length - written.length) zero

def growing (call reason : String) : NativeError :=
  .invalidArgument call reason

/-- Foreign text ends at a zero, so it cannot hold one. -/
def checkText (call text : String) : Except NativeError Unit :=
  if text.toList.any fun value => value.toNat == 0 then
    .error (.invalidArgument call "interior NUL byte")
  else .ok ()

def checkStatus (call : String) (entity : Entity) (key : String) (status : Int) :
    Except NativeError Unit :=
  if status = 0 then .ok () else .error (.callFailed call entity key status)

variable {State : Type} (table : Table State)

/-- The answer is as long as its status says; a longer one than the buffer asks for a larger buffer. -/
def readText (call : String) (entity : Entity) (key : String) (query : Nat → Call) :
    Nat → Nat → State → Except NativeError (Option String) × State
  | 0, _, state => (.error (growing call s!"'{key}' kept growing while being read"), state)
  | attempts + 1, room, state =>
      let (reply, state) := table (query (clamp room)) state
      if reply.status = -1 then (.ok none, state)
      else if reply.status < 0 then (.error (.callFailed call entity key reply.status), state)
      else
        let length := reply.status.toNat
        if room ≤ length then readText call entity key query attempts (length + 1) state
        else
          match Text.Utf8.decode? (filled 0 length reply.bytes) with
          | some text => (.ok (some text), state)
          | none => (.error (.invalidUtf8 entity key), state)

/-- The buffer never has more places than were asked for. -/
def readEntities (cap : Nat) : Nat → Nat → State → Except NativeError (List Entity) × State
  | 0, _, state => (.error (growing "get_all_entities" "entity count kept growing"), state)
  | attempts + 1, room, state =>
      let (reply, state) := table (.allEntities (clamp room)) state
      if reply.status < 0 then
        (.error (.engineCallFailed "get_all_entities" reply.status), state)
      else
        let total := reply.status.toNat
        if room < total ∧ room < cap then readEntities cap attempts (min total cap) state
        else (.ok (filled ⟨0⟩ (min total room) reply.entities), state)

def interval (state : State) : Float32 × State :=
  let (reply, state) := table .tickInterval state
  (reply.interval, state)

def liveEntities (cap : Nat) (state : State) : Except NativeError (List Entity) × State :=
  readEntities table cap attempts (min cap entityRoom) state

def createEntity (state : State) : Except NativeError Entity × State :=
  let (reply, state) := table .createEntity state
  if reply.status = 0 then (.ok (reply.entities.head?.getD ⟨0⟩), state)
  else (.error (.engineCallFailed "create_entity" reply.status), state)

def destroyEntity (entity : Entity) (state : State) : Except NativeError Unit × State :=
  let (reply, state) := table (.destroyEntity entity) state
  (checkStatus "destroy_entity" entity "" reply.status, state)

def isAlive (entity : Entity) (state : State) : Bool × State :=
  let (reply, state) := table (.isAlive entity) state
  (0 < reply.status, state)

def component (entity : Entity) (key : String) (state : State) :
    Except NativeError (Option String) × State :=
  match checkText "get_component_json" key with
  | .error error => (.error error, state)
  | .ok () =>
      readText table "get_component_json" entity key (.component entity key) attempts textRoom state

def scriptData (entity : Entity) (key : String) (state : State) :
    Except NativeError (Option String) × State :=
  match checkText "get_script_data" key with
  | .error error => (.error error, state)
  | .ok () =>
      readText table "get_script_data" entity key (.scriptData entity key) attempts textRoom state

/-- No call is made with a text that cannot be passed on. -/
def settled (call : Call) (entity : Entity) (key : String) (texts : List String) (state : State) :
    Except NativeError Unit × State :=
  match texts.forM (checkText call.name) with
  | .error error => (.error error, state)
  | .ok () =>
      let (reply, state) := table call state
      (checkStatus call.name entity key reply.status, state)

def setComponent (entity : Entity) (key value : String) (state : State) :
    Except NativeError Unit × State :=
  settled table (.setComponent entity key value) entity key [key, value] state

def setScriptData (entity : Entity) (key value : String) (state : State) :
    Except NativeError Unit × State :=
  settled table (.setScriptData entity key value) entity key [key, value] state

def removeScriptData (entity : Entity) (key : String) (state : State) :
    Except NativeError Unit × State :=
  settled table (.removeScriptData entity key) entity key [key] state

end ScriptHost.Foreign
