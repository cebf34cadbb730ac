/-
This file keeps entities and their texts.
-/
import ScriptHost.Engine.Entity
import ScriptHost.Json.Value

namespace ScriptHost

/-- The entries of both tables stand in ascending order of their keys. -/
structure Texts where
  data : List (String × String)
  components : List (String × String)
  deriving DecidableEq, Repr, Inhabited

/-- A place is reused by a later entity of the next generation. -/
structure Place where
  generation : Nat
  texts : Option Texts
  deriving DecidableEq, Repr, Inhabited

/-- The places that became free last are taken first. -/
structure EntityStore where
  places : List Place
  free : List Nat
  deriving DecidableEq, Repr, Inhabited

namespace EntityStore

def empty : EntityStore := ⟨[], []⟩

def entityOf (generation index : Nat) : Entity :=
  ⟨UInt64.ofNat (generation * 0x100000000 + index)⟩

def indexOf (entity : Entity) : Nat :=
  entity.bits.toNat % 0x100000000

def generationOf (entity : Entity) : Nat :=
  entity.bits.toNat / 0x100000000

/-- A handle is good only for the generation that it was given out for. -/
def texts? (store : EntityStore) (entity : Entity) : Option Texts := do
  let place ← store.places[indexOf entity]?
  if place.generation = generationOf entity then place.texts else none

def isAlive (store : EntityStore) (entity : Entity) : Bool :=
  (store.texts? entity).isSome

def spawn (store : EntityStore) (data : List (String × String)) : EntityStore × Entity :=
  match store.free with
  | index :: free =>
      let generation := (store.places[index]?.getD ⟨1, none⟩).generation
      (⟨store.places.set index ⟨generation, some ⟨data, []⟩⟩, free⟩, entityOf generation index)
  | [] =>
      (⟨store.places ++ [⟨1, some ⟨data, []⟩⟩], []⟩, entityOf 1 store.places.length)

def destroy (store : EntityStore) (entity : Entity) : EntityStore :=
  ⟨store.places.set (indexOf entity) ⟨generationOf entity + 1, none⟩, indexOf entity :: store.free⟩

def setTexts (store : EntityStore) (entity : Entity) (texts : Texts) : EntityStore :=
  { store with places := store.places.set (indexOf entity) ⟨generationOf entity, some texts⟩ }

def aliveAt (place : Place) (index : Nat) : Option Entity :=
  if place.texts.isSome then some (entityOf place.generation index) else none

def alive (store : EntityStore) : List Entity :=
  store.places.zipIdx.filterMap fun (place, index) => aliveAt place index

def count (store : EntityStore) : Nat :=
  store.alive.length

/-- The living entities come in ascending order, cut to a length. -/
def live (store : EntityStore) (cap : Nat) : List Entity :=
  (store.alive.mergeSort fun left right => left.bits ≤ right.bits).take cap

end EntityStore

def findText (key : String) (table : List (String × String)) : Option String :=
  (table.find? fun entry => entry.1 == key).map Prod.snd

def removeText (key : String) (table : List (String × String)) : List (String × String) :=
  table.filter fun entry => entry.1 != key

/-- The switches make chosen calls fail. -/
structure Engine where
  store : EntityStore
  interval : Float32
  failing : List String
  liveCode : Option Int
  createCode : Option Int
  panicKey : Option String

namespace Engine

def create (interval : Float32) : Engine :=
  ⟨.empty, interval, [], none, none, none⟩

/-- A sixtieth of a second. -/
def standardInterval : Float32 := Float32.ofBits 0x3c888889

def checkKey (engine : Engine) (call : String) (entity : Entity) (key : String) :
    Except NativeError Unit :=
  if engine.failing.contains key then .error (.callFailed call entity key (-1)) else .ok ()

def resolve (engine : Engine) (entity : Entity) : Except NativeError Texts :=
  match engine.store.texts? entity with
  | some texts => .ok texts
  | none => .error (.deadEntity entity)

def liveEntities (engine : Engine) (cap : Nat) : Except NativeError (List Entity) :=
  match engine.liveCode with
  | some code => .error (.engineCallFailed "get_all_entities" code)
  | none => .ok (engine.store.live cap)

def spawn (engine : Engine) (data : List (String × String)) : Engine × Entity :=
  let (store, entity) := engine.store.spawn data
  ({ engine with store }, entity)

def createEntity (engine : Engine) : Engine × Except NativeError Entity :=
  match engine.createCode with
  | some code => (engine, .error (.engineCallFailed "create_entity" code))
  | none =>
      let (engine, entity) := engine.spawn []
      (engine, .ok entity)

def destroyEntity (engine : Engine) (entity : Entity) : Engine × Except NativeError Unit :=
  match engine.resolve entity with
  | .error error => (engine, .error error)
  | .ok _ => ({ engine with store := engine.store.destroy entity }, .ok ())

def isAlive (engine : Engine) (entity : Entity) : Bool :=
  engine.store.isAlive entity

def component (engine : Engine) (entity : Entity) (key : String) :
    Except NativeError (Option String) := do
  engine.checkKey "get_component_json" entity key
  let texts ← engine.resolve entity
  return findText key texts.components

def checkJson (entity : Entity) (key text : String) : Except NativeError Unit :=
  if (Json.Value.read? text).isSome then .ok ()
  else .error (.callFailed "set_component_json" entity key (-2))

def withTexts (engine : Engine) (entity : Entity) (change : Texts → Texts) :
    Except NativeError Engine := do
  let texts ← engine.resolve entity
  return { engine with store := engine.store.setTexts entity (change texts) }

def update (engine : Engine) (result : Except NativeError Engine) :
    Engine × Except NativeError Unit :=
  match result with
  | .ok changed => (changed, .ok ())
  | .error error => (engine, .error error)

def setComponent (engine : Engine) (entity : Entity) (key text : String) :
    Engine × Except NativeError Unit :=
  engine.update do
    engine.checkKey "set_component_json" entity key
    checkJson entity key text
    engine.withTexts entity fun texts =>
      { texts with components := Json.put key text texts.components }

def scriptData (engine : Engine) (entity : Entity) (key : String) :
    Except NativeError (Option String) := do
  engine.checkKey "get_script_data" entity key
  let texts ← engine.resolve entity
  return findText key texts.data

def setScriptData (engine : Engine) (entity : Entity) (key value : String) :
    Engine × Except NativeError Unit :=
  engine.update do
    engine.checkKey "set_script_data" entity key
    engine.withTexts entity fun texts => { texts with data := Json.put key value texts.data }

def removeScriptData (engine : Engine) (entity : Entity) (key : String) :
    Engine × Except NativeError Unit :=
  engine.update do
    engine.checkKey "remove_script_data" entity key
    engine.withTexts entity fun texts => { texts with data := removeText key texts.data }

/-- A dead entity has no entries. -/
def entries (engine : Engine) (entity : Entity) : List (String × String) :=
  match engine.store.texts? entity with
  | some texts => texts.data
  | none => []

/-- Reading this key makes the engine panic. -/
def panicsOn (engine : Engine) (key : String) : Option String :=
  if engine.panicKey = some key then some s!"native panic on {key}" else none

end Engine

end ScriptHost
