/-
This file runs a foreign engine against replies that were laid out in advance, and hands foreign events
to the event bridge.
-/
import ScriptHost.Foreign.Engine
import ScriptHost.Session.Perform

namespace ScriptHost.Foreign

open Session (Answer Operation Run)

/-- The calls stand latest first. A function repeats the last of its replies. -/
structure Script where
  replies : List (String × List Reply)
  calls : List Call

namespace Script

def next : List Reply → Reply × List Reply
  | [] => (.ofStatus 0, [])
  | [last] => (last, [last])
  | reply :: rest => (reply, rest)

def setReplies (script : Script) (function : String) (replies : List Reply) : Script :=
  { script with
    replies := (function, replies) :: script.replies.filter fun entry => entry.1 != function }

/-- A text is written only where it fits together with its end. -/
def written : Call → Reply → Reply
  | .component _ _ size, reply => if reply.bytes.length < size then reply else { reply with bytes := [] }
  | .scriptData _ _ size, reply => if reply.bytes.length < size then reply else { reply with bytes := [] }
  | .allEntities room, reply => { reply with entities := reply.entities.take room }
  | _, reply => reply

def table : Table Script := fun call script =>
  let (reply, rest) := next ((script.replies.lookup call.name).getD [])
  (written call reply, { script.setReplies call.name rest with calls := call :: script.calls })

end Script

/-- An event comes with a pointer to its name, a pointer to its payload, and a length. -/
structure Envelope where
  name : Option (List UInt8)
  payload : Option (List UInt8)
  length : Nat
  bridge : Bool

namespace Envelope

def reject (reason : String) : TraceRecord :=
  failure "native" s!"event envelope rejected: {reason}" []

/-- The name ends at the first zero. -/
def nameText (name : List UInt8) : Except String String :=
  let name := name.takeWhile (· ≠ 0)
  match Text.Utf8.damage? name with
  | some damage => .error damage.message
  | none => .ok (Text.Utf8.decodeLossy name)

/-- A payload without bytes needs no pointer. -/
def read (envelope : Envelope) : Except String (String × Event.Payload) :=
  match envelope.name, envelope.bridge with
  | some name, true =>
      match nameText name with
      | .error reason => .error reason
      | .ok name =>
          if envelope.length = 0 then .ok (name, [])
          else
            match envelope.payload with
            | some payload => .ok (name, payload.take envelope.length)
            | none => .error s!"event '{name}' has a null payload of {envelope.length} bytes"
  | _, _ => .error "null event name or bridge pointer"

/-- Nothing that goes wrong comes out of here. -/
def deliver (call : Session.Caller) (envelope : Envelope) : Run Unit := do
  match envelope.read with
  | .error reason => Run.report (reject reason)
  | .ok (name, payload) =>
      let body : Run Unit := do discard (Session.Events.dispatch call name payload)
      match ← Run.isolate body with
      | none => return ()
      | some fault => Run.report (reject fault.display)

end Envelope

inductive Command where
  | replies (function : String) (replies : List Reply)
  | attach
  | attached
  | receive (envelope : Envelope)
  | engine (operation : Operation)

structure State where
  script : Script
  attached : Bool
  world : Session.World

def silentHook : Session.Hook Operation := ⟨fun _ => ⟨[], .normal⟩⟩

def explodingHook : Session.Hook Operation := ⟨fun _ => ⟨[], .panic (some "handler exploded")⟩⟩

/-- Three built-in events and one other are recorded, and the last subscriber panics. -/
def subscribeAll : Run Unit := do
  for kind in [Event.Kind.logicTick, .movementCompleted, .stateEntered] do
    discard (Session.Perform.subscribe kind kind.name silentHook)
  discard (Session.Perform.subscribeRaw "door_opened" "door_opened" silentHook)
  discard (Session.Perform.subscribeRaw "boom" "boom" explodingHook)

def State.create (tree : File.Tree) (draws : Script.Draws) : State :=
  ⟨⟨[], []⟩, false, ((subscribeAll.run).run (.create tree draws)).2⟩

def ofResult {α : Type} (shape : α → Answer) : Except NativeError α → Answer
  | .ok value => shape value
  | .error error => .problem (.native error)

def truthOf : Except NativeError Unit → Answer :=
  ofResult fun _ => .truth true

/-- Entities are known by their numbers alone here. -/
def numbered (name : Session.EntityName) (script : Script) (body : Entity → Answer × Script) :
    Answer × Script :=
  match name with
  | .number entity => body entity
  | .name text => (.problem (.noHandle s!"@{text}"), script)

def engineAnswer (script : Script) : Operation → Answer × Script
  | .interval => (interval Script.table script).map .interval id
  | .live cap => (liveEntities Script.table cap script).map (ofResult .entities) id
  | .create _ => (createEntity Script.table script).map (ofResult .entity) id
  | .destroy name => numbered name script fun entity =>
      (destroyEntity Script.table entity script).map truthOf id
  | .alive name => numbered name script fun entity =>
      (isAlive Script.table entity script).map .truth id
  | .getComponent name key => numbered name script fun entity =>
      (component Script.table entity key script).map (ofResult .possibleText) id
  | .setComponent name key value => numbered name script fun entity =>
      (setComponent Script.table entity key value script).map truthOf id
  | .getData name key => numbered name script fun entity =>
      (scriptData Script.table entity key script).map (ofResult .possibleText) id
  | .setData name key value => numbered name script fun entity =>
      (setScriptData Script.table entity key value script).map truthOf id
  | .removeData name key => numbered name script fun entity =>
      (removeScriptData Script.table entity key script).map truthOf id
  | _ => (.problem .unsuitable, script)

/-- A bridge is attached once; a refused subscription leaves it out. -/
def attach (state : State) : Answer × State :=
  if state.attached then (.truth false, state)
  else
    let (reply, script) := Script.table (.subscribe "*") state.script
    if reply.status = 0 then (.truth true, { state with script, attached := true })
    else
      (.problem (.native (.engineCallFailed "subscribe_event" reply.status)), { state with script })

def step (state : State) : Command → Answer × State
  | .replies function replies =>
      (.nothing, { state with script := state.script.setReplies function replies })
  | .attach => attach state
  | .attached => (.truth state.attached, state)
  | .receive envelope =>
      let caller := Session.caller Session.nestingLimit
      (.nothing, { state with world := (((envelope.deliver caller).run).run state.world).2 })
  | .engine .dropped => (.count state.world.bridge.dropped, state)
  | .engine operation =>
      let (answer, script) := engineAnswer state.script operation
      (answer, { state with script })

end ScriptHost.Foreign
