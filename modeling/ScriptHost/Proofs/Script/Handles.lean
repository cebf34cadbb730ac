/-
This file says which entities a script can still name once it was given their integers, whatever engine gives them.
-/
import ScriptHost.Foreign.Engine
import ScriptHost.Proofs.Script.Components

namespace ScriptHost

namespace Entity

variable {entity : Entity}

/-- Different entities have different integers. -/
theorem toInt_injective : Function.Injective toInt := by
  rintro ⟨bits⟩ ⟨other⟩ same
  have back := congrArg Int64.toUInt64 same
  simp only [toInt, UInt64.toUInt64_toInt64] at back
  exact congrArg Entity.mk back

/-- An entity from the upper half has a negative integer. -/
theorem toInt_negative : entity.toInt < 0 ↔ ¬ entity.bits < 0x8000000000000000 := by
  rw [toInt, Int64.lt_iff_toInt_lt, Int64.toInt, UInt64.toBitVec_toInt64, UInt64.lt_iff_toNat_lt, Nat.not_lt]
  change entity.bits.toBitVec.toInt < 0 ↔ 0x8000000000000000 ≤ entity.bits.toBitVec.toNat
  rw [BitVec.toInt_neg_iff]
  omega

/-- Half of all handles are read as no entity. -/
theorem ofInt_toInt_eq (entity : Entity) :
    ofInt entity.toInt = if entity.bits < 0x8000000000000000 then some entity else none := by
  by_cases low : entity.bits < 0x8000000000000000
  · rw [if_pos low, ofInt, if_neg (mt toInt_negative.mp (not_not.mpr low)), toInt, UInt64.toUInt64_toInt64]
  · rw [if_neg low, ofInt, if_pos (toInt_negative.mpr low)]

/-- An entity comes back from its integer exactly if it is from the lower half. -/
theorem ofInt_toInt_iff : ofInt entity.toInt = some entity ↔ entity.bits < 0x8000000000000000 := by
  rw [ofInt_toInt_eq]
  split
  · next low => exact iff_of_true rfl low
  · next high => exact iff_of_false nofun high

/-- Only the last entity has the integer of a failure. -/
theorem toInt_eq_failure : entity.toInt = -1 ↔ entity = ⟨0xffffffffffffffff⟩ :=
  toInt_injective.eq_iff (b := ⟨0xffffffffffffffff⟩)

end Entity

namespace Script

/-- This is all that scripts need of an engine. The last part tells of which keys reading makes the engine panic. -/
structure Native (State : Type) where
  liveEntities : Nat → State → Except NativeError (List Entity) × State
  createEntity : State → Except NativeError Entity × State
  destroyEntity : Entity → State → Except NativeError Unit × State
  isAlive : Entity → State → Bool × State
  component : Entity → String → State → Except NativeError (Option String) × State
  setComponent : Entity → String → String → State → Except NativeError Unit × State
  scriptData : Entity → String → State → Except NativeError (Option String) × State
  setScriptData : Entity → String → String → State → Except NativeError Unit × State
  removeScriptData : Entity → String → State → Except NativeError Unit × State
  panicsOn : String → State → Option String

/-- A call answers and reports, or makes the engine panic. -/
inductive Response (State : Type) where
  | answer (value : Value) (records : List TraceRecord) (state : State)
  | panicked (message : String)

def Response.reply (outside : Outside) : Response Engine → Reply
  | .answer value records engine => .answer value { outside with engine, records := outside.records ++ records }
  | .panicked message => .panicked message

/-- These calls of scripts are about one entity. -/
inductive Errand where
  | isAlive
  | destroy
  | getComponent (component : String)
  | setComponent (component : String) (value : Value)
  | getData (key : String)
  | setData (key value : String)
  | removeData (key : String)

namespace Errand

def name : Errand → String
  | .isAlive => "is_alive"
  | .destroy => "destroy_entity"
  | .getComponent _ => "get_component"
  | .setComponent .. => "set_component"
  | .getData _ => "get_script_data"
  | .setData .. => "set_script_data"
  | .removeData _ => "remove_script_data"

/-- The integer of the entity comes before these. -/
def arguments : Errand → List Value
  | .isAlive | .destroy => []
  | .getComponent component => [.string component]
  | .setComponent component value => [.string component, value]
  | .getData key | .removeData key => [.string key]
  | .setData key value => [.string key, .string value]

/-- This is answered where there is no entity to ask about. -/
def unanswered : Errand → Value
  | .getComponent _ | .getData _ => .unit
  | _ => .boolean false

def fields (entity : Entity) : Errand → List (String × String)
  | .isAlive | .destroy => [("entity", entity.display)]
  | .getComponent component | .setComponent component _ => [("entity", entity.display), ("component", component)]
  | .getData key | .setData key _ | .removeData key => [("entity", entity.display), ("key", key)]

variable {State : Type}

def failed (errand : Errand) (entity : Entity) (error : NativeError) (state : State) : Response State :=
  .answer errand.unanswered [warning "native" s!"{errand.name}(): {error.message}" (errand.fields entity)] state

/-- A write answers whether it was done. -/
def settled (errand : Errand) (entity : Entity) : Except NativeError Unit × State → Response State
  | (.ok (), state) => .answer (.boolean true) [] state
  | (.error error, state) => errand.failed entity error state

end Errand

namespace Native

def ofEngine : Native Engine where
  liveEntities cap engine := (engine.liveEntities cap, engine)
  createEntity engine := engine.createEntity.swap
  destroyEntity entity engine := (engine.destroyEntity entity).swap
  isAlive entity engine := (engine.isAlive entity, engine)
  component entity key engine := (engine.component entity key, engine)
  setComponent entity key text engine := (engine.setComponent entity key text).swap
  scriptData entity key engine := (engine.scriptData entity key, engine)
  setScriptData entity key value engine := (engine.setScriptData entity key value).swap
  removeScriptData entity key engine := (engine.removeScriptData entity key).swap
  panicsOn key engine := engine.panicsOn key

variable {State : Type}

def ofTable (table : Foreign.Table State) : Native State where
  liveEntities := Foreign.liveEntities table
  createEntity := Foreign.createEntity table
  destroyEntity := Foreign.destroyEntity table
  isAlive := Foreign.isAlive table
  component := Foreign.component table
  setComponent := Foreign.setComponent table
  scriptData := Foreign.scriptData table
  setScriptData := Foreign.setScriptData table
  removeScriptData := Foreign.removeScriptData table
  panicsOn _ _ := none

/-- The engine does what is asked of an entity. -/
def perform (native : Native State) (entity : Entity) (errand : Errand) (state : State) : Response State :=
  match errand with
  | .isAlive =>
      let (alive, state) := native.isAlive entity state
      .answer (.boolean alive) [] state
  | .destroy => errand.settled entity (native.destroyEntity entity state)
  | .getComponent component =>
      match native.component entity component state with
      | (.error error, state) => errand.failed entity error state
      | (.ok none, state) => .answer .unit [] state
      | (.ok (some text), state) =>
          match Json.Value.read? text with
          | some value => .answer (Value.ofJson value) [] state
          | none => .answer .unit [warning "native" "component payload is not JSON" (errand.fields entity)] state
  | .setComponent component value =>
      match value.toJson? with
      | none =>
          let record := warning "script" "set_component() value is not serializable" (errand.fields entity)
          .answer (.boolean false) [record] state
      | some json => errand.settled entity (native.setComponent entity component json.write state)
  | .getData key =>
      match native.panicsOn key state with
      | some message => .panicked message
      | none =>
          match native.scriptData entity key state with
          | (.error error, state) => errand.failed entity error state
          | (.ok none, state) => .answer .unit [] state
          | (.ok (some text), state) => .answer (.string text) [] state
  | .setData key value => errand.settled entity (native.setScriptData entity key value state)
  | .removeData key => errand.settled entity (native.removeScriptData entity key state)

/-- Scripts ask by an integer. -/
def ask (native : Native State) (handle : Int64) (errand : Errand) (state : State) : Response State :=
  match Entity.ofInt handle with
  | some entity => native.perform entity errand state
  | none => .answer errand.unanswered [] state

/-- No engine lists as many entities as this. -/
def everyEntity : Nat := 0x10000000000000000

def entities (native : Native State) (state : State) : Response State :=
  match native.liveEntities everyEntity state with
  | (.ok list, state) => .answer (.array (list.map fun entity => .integer entity.toInt)) [] state
  | (.error error, state) => .answer (.array []) [warning "native" s!"entities(): {error.message}" []] state

def create (native : Native State) (state : State) : Response State :=
  match native.createEntity state with
  | (.ok entity, state) => .answer (.integer entity.toInt) [] state
  | (.error error, state) => .answer (.integer (-1)) [warning "native" s!"create_entity(): {error.message}" []] state

end Native

section Interface

open Native (ofEngine)

variable {outside : Outside} {result : Engine × Except NativeError Unit}

/-- A silent response writes no record. -/
theorem reply_silent (value : Value) (outside : Outside) (engine : Engine) :
    (Response.answer value [] engine).reply outside = .answer value { outside with engine } := by
  rw [Response.reply, List.append_nil]

/-- A value is answered by a response with this value. -/
theorem answer_of_reply {response : Response Engine} {value : Value} {after : Outside}
    (answered : response.reply outside = .answer value after) :
    ∃ records engine, response = .answer value records engine := by
  cases response with
  | answer => cases answered; exact ⟨_, _, rfl⟩
  | panicked => cases answered

/-- The entities of the program are those of its engine. -/
theorem entities_native (outside : Outside) :
    Interface.entities outside = (ofEngine.entities outside.engine).reply outside := by
  simp only [Interface.entities, Native.entities, ofEngine, Native.everyEntity]
  cases outside.engine.liveEntities 0x10000000000000000 with
  | error error => rfl
  | ok list => exact (reply_silent _ outside outside.engine).symm

/-- The program creates an entity with its engine. -/
theorem createEntity_native (outside : Outside) :
    Interface.createEntity outside = (ofEngine.create outside.engine).reply outside := by
  simp only [Interface.createEntity, Native.create, ofEngine, Engine.createEntity]
  cases outside.engine.createCode with
  | some code => rfl
  | none => exact (reply_silent _ outside _).symm

/-- An engine that refuses to destroy an entity stays as it is. -/
theorem destroyEntity_refused {engine : Engine} {entity : Entity} {error : NativeError}
    (refused : (engine.destroyEntity entity).2 = .error error) : (engine.destroyEntity entity).1 = engine := by
  unfold Engine.destroyEntity at refused ⊢
  split at refused
  · rfl
  · cases refused

/-- An engine that refuses an update stays as it is. -/
theorem update_refused {engine : Engine} {changed : Except NativeError Engine} {error : NativeError}
    (refused : (engine.update changed).2 = .error error) : (engine.update changed).1 = engine := by
  cases changed with
  | error error => rfl
  | ok after => cases refused

/-- A refused write leaves the engine alone. -/
theorem settle_native (errand : Errand) (entity : Entity) (written : errand.unanswered = .boolean false)
    (refused : ∀ error, result.2 = .error error → result.1 = outside.engine) :
    Interface.settle outside errand.name (errand.fields entity) result =
      (errand.settled entity result.swap).reply outside := by
  obtain ⟨engine, error | done⟩ := result
  · obtain rfl : engine = outside.engine := refused error rfl
    simp only [Interface.settle, Prod.swap_prod_mk, Errand.settled, Errand.failed, written]
    rfl
  · exact (reply_silent _ outside engine).symm

/-- An integer that means no entity is not passed on. -/
theorem unknown_native {handle : Int64} (unknown : Entity.ofInt handle = none) (errand : Errand) :
    Interface.engineCall errand.name (.integer handle :: errand.arguments) outside =
      .answer errand.unanswered outside := by
  cases errand <;>
    simp only [Errand.name, Errand.arguments, Errand.unanswered, Interface.engineCall, Interface.isAlive,
      Interface.destroyEntity, Interface.getComponent, Interface.setComponent, Interface.getScriptData,
      Interface.setScriptData, Interface.removeScriptData, unknown]

/-- An errand on a known handle is run with the entity behind it. -/
theorem known_native {handle : Int64} {entity : Entity} (known : Entity.ofInt handle = some entity) (errand : Errand) :
    Interface.engineCall errand.name (.integer handle :: errand.arguments) outside =
      (ofEngine.perform entity errand outside.engine).reply outside := by
  have silent (value : Value) := reply_silent value outside outside.engine
  cases errand with
  | isAlive =>
      change Interface.isAlive handle outside = _
      rw [Interface.isAlive, known]
      exact (silent _).symm
  | destroy =>
      change Interface.destroyEntity handle outside = _
      rw [Interface.destroyEntity, known]
      exact settle_native .destroy entity rfl fun error => destroyEntity_refused
  | getComponent component =>
      change Interface.getComponent handle component outside = _
      simp only [Interface.getComponent, known, Native.perform, ofEngine]
      rcases outside.engine.component entity component with error | - | text
      · rfl
      · exact (silent _).symm
      · dsimp only
        cases Json.Value.read? text with
        | none => rfl
        | some value => exact (silent _).symm
  | setComponent component value =>
      change Interface.setComponent handle component value outside = _
      simp only [Interface.setComponent, known, Native.perform]
      cases value.toJson? with
      | none => rfl
      | some json => exact settle_native (.setComponent component value) entity rfl fun error => update_refused
  | getData key =>
      change Interface.getScriptData handle key outside = _
      simp only [Interface.getScriptData, known, Native.perform, ofEngine]
      cases outside.engine.panicsOn key with
      | some message => rfl
      | none =>
          rcases outside.engine.scriptData entity key with error | - | text
          · rfl
          · exact (silent _).symm
          · exact (silent _).symm
  | setData key value =>
      change Interface.setScriptData handle key value outside = _
      rw [Interface.setScriptData, known]
      exact settle_native (.setData key value) entity rfl fun error => update_refused
  | removeData key =>
      change Interface.removeScriptData handle key outside = _
      rw [Interface.removeScriptData, known]
      exact settle_native (.removeData key) entity rfl fun error => update_refused

/-- The interface of scripts asks its own engine as it would ask any other. -/
theorem engineCall_native (handle : Int64) (errand : Errand) (outside : Outside) :
    Interface.engineCall errand.name (.integer handle :: errand.arguments) outside =
      (ofEngine.ask handle errand outside.engine).reply outside := by
  unfold Native.ask
  cases known : Entity.ofInt handle with
  | none => rw [unknown_native known, reply_silent]
  | some entity => exact known_native known errand

end Interface

namespace Native

variable {State : Type} {native : Native State} {world : State → Prop} {state later : State} {entity : Entity}

/-- The engine answers with this entity when it is asked for all of them, or for a new one. -/
def Gives (native : Native State) (state : State) (entity : Entity) : Prop :=
  (∃ list later, native.liveEntities everyEntity state = (.ok list, later) ∧ entity ∈ list) ∨
    ∃ later, native.createEntity state = (.ok entity, later)

/-- A script comes by this integer as that of an entity. -/
def Tells (native : Native State) (state : State) (handle : Int64) : Prop :=
  (∃ items records later,
    native.entities state = .answer (.array items) records later ∧ .integer handle ∈ items) ∨
    ∃ later, native.create state = .answer (.integer handle) [] later

/-- The integer of the entity is as good as the entity. -/
structure Identifies (native : Native State) (entity : Entity) : Prop where
  known : Entity.ofInt entity.toInt = some entity
  asked : ∀ errand state, native.ask entity.toInt errand state = native.perform entity errand state

/-- The integer of the entity means no entity, and nothing that is asked by it comes to the engine. -/
structure Loses (native : Native State) (entity : Entity) : Prop where
  unknown : Entity.ofInt entity.toInt = none
  unasked : ∀ errand state, native.ask entity.toInt errand state = .answer errand.unanswered [] state

/-- In all states that occur, the integers of entities tell which entity is meant, and no new entity looks like a
failure. -/
structure HandlesSurvive (native : Native State) (world : State → Prop) : Prop where
  identified : ∀ state entity, world state → native.Gives state entity → native.Identifies entity
  apart : ∀ state entity state' other, world state → native.Gives state entity → world state' →
    native.Gives state' other → entity.toInt = other.toInt → entity = other
  created : ∀ state entity later, world state →
    native.createEntity state = (.ok entity, later) → entity.toInt ≠ -1

/-- An engine identifies exactly the entities of the lower half. -/
theorem identifies_iff : native.Identifies entity ↔ entity.bits < 0x8000000000000000 := by
  refine ⟨fun identifies => Entity.ofInt_toInt_iff.mp identifies.known, fun low => ?_⟩
  have known := Entity.ofInt_toInt_iff.mpr low
  exact ⟨known, fun errand state => by rw [ask, known]⟩

/-- An entity of the upper half is lost. -/
theorem loses_of_high (high : ¬ entity.bits < 0x8000000000000000) : native.Loses entity := by
  have unknown : Entity.ofInt entity.toInt = none := by rw [Entity.ofInt_toInt_eq, if_neg high]
  exact ⟨unknown, fun errand state => by rw [ask, unknown]⟩

/-- A failure lists no integers. -/
theorem entities_told {items : List Value} {records : List TraceRecord} {handle : Int64}
    (answered : native.entities state = .answer (.array items) records later) (held : .integer handle ∈ items) :
    ∃ entity, native.Gives state entity ∧ entity.toInt = handle := by
  unfold entities at answered
  rcases listed : native.liveEntities everyEntity state with ⟨error | list, after⟩
  · rw [listed] at answered
    cases answered
    cases held
  · rw [listed] at answered
    cases answered
    obtain ⟨entity, among, same⟩ := List.mem_map.mp held
    exact ⟨entity, .inl ⟨list, _, listed, among⟩, Value.integer.inj same⟩

/-- A silent answer tells the integer of the entity that was created. -/
theorem create_silent {handle : Int64} :
    native.create state = .answer (.integer handle) [] later ↔
      ∃ entity, native.createEntity state = (.ok entity, later) ∧ entity.toInt = handle := by
  unfold create
  rcases native.createEntity state with ⟨error | entity, after⟩
  · simp
  · simp [and_comm]

/-- The integers that a script comes by are those of the entities that the engine gives. -/
theorem tells_iff {handle : Int64} :
    native.Tells state handle ↔ ∃ entity, native.Gives state entity ∧ entity.toInt = handle := by
  constructor
  · rintro (⟨items, records, later, answered, held⟩ | ⟨later, answered⟩)
    · exact entities_told answered held
    · obtain ⟨entity, created, same⟩ := create_silent.mp answered
      exact ⟨entity, .inr ⟨later, created⟩, same⟩
  · rintro ⟨entity, ⟨list, later, listed, among⟩ | ⟨later, created⟩, rfl⟩
    · have answered : native.entities state =
          .answer (.array (list.map fun entity => .integer entity.toInt)) [] later := by rw [entities, listed]
      exact .inl ⟨_, [], later, answered, List.mem_map_of_mem among⟩
    · exact .inr ⟨later, create_silent.mpr ⟨entity, created, rfl⟩⟩

/-- A failure is answered if the creation failed or the last entity was created. -/
theorem create_failure :
    (∃ records later, native.create state = .answer (.integer (-1)) records later) ↔
      (∃ error later, native.createEntity state = (.error error, later)) ∨
        ∃ later, native.createEntity state = (.ok ⟨0xffffffffffffffff⟩, later) := by
  unfold create
  rcases native.createEntity state with ⟨error | entity, after⟩
  · simp
  · simp [Entity.toInt_eq_failure]

/-- No integer stands for two entities, so all comes down to the entities that have a negative one. -/
theorem handlesSurvive_iff :
    native.HandlesSurvive world ↔
      ∀ state entity, world state → native.Gives state entity → entity.bits < 0x8000000000000000 := by
  constructor
  · intro survive state entity occurs gives
    exact identifies_iff.mp (survive.identified state entity occurs gives)
  · intro low
    refine ⟨fun state entity occurs gives => identifies_iff.mpr (low state entity occurs gives),
      fun _ _ _ _ _ _ _ _ same => Entity.toInt_injective same, fun state entity later occurs created failure => ?_⟩
    obtain rfl := Entity.toInt_eq_failure.mp failure
    exact absurd (low state _ occurs (.inr ⟨later, created⟩)) (by decide)

/-- The integers that a script is given are those of the entities that the engine gives, and no two entities have the
same. An entity in the lower half of all handles is known by its integer in every call. The integer of any other means
no entity, and that of the last one looks like a failure. So handles survive their way through scripts exactly where
the engine keeps to the lower half. -/
theorem handles_cross (native : Native State) (world : State → Prop) :
    (native.HandlesSurvive world ↔
      ∀ state entity, world state → native.Gives state entity → entity.bits < 0x8000000000000000) ∧
    (∀ entity, if entity.bits < 0x8000000000000000 then native.Identifies entity else native.Loses entity) ∧
    (∀ entity other : Entity, entity.toInt = other.toInt → entity = other) ∧
    ∀ state,
      (∀ handle, native.Tells state handle ↔ ∃ entity, native.Gives state entity ∧ entity.toInt = handle) ∧
      ((∃ records later, native.create state = .answer (.integer (-1)) records later) ↔
        (∃ error later, native.createEntity state = (.error error, later)) ∨
          ∃ later, native.createEntity state = (.ok ⟨0xffffffffffffffff⟩, later)) := by
  refine ⟨handlesSurvive_iff, fun entity => ?_, fun _ _ same => Entity.toInt_injective same,
    fun state => ⟨fun handle => tells_iff, create_failure⟩⟩
  split
  · next low => exact identifies_iff.mpr low
  · next high => exact loses_of_high high

/-- Foreign code may number its entities as it likes. This one has a single entity. -/
def numbering (entity : Entity) : Foreign.Table Unit := fun call _ =>
  match call with
  | .allEntities _ => (⟨1, [], [entity], 0⟩, ())
  | .createEntity => (⟨0, [], [entity], 0⟩, ())
  | .isAlive other => (.ofStatus (if other = entity then 1 else 0), ())
  | _ => (.ofStatus 0, ())

/-- Some engine gives the entity. -/
theorem numbering_gives (entity : Entity) : (ofTable (numbering entity)).Gives () entity :=
  .inr ⟨(), rfl⟩

/-- A script that is given the first handle of the upper half takes the entity for dead, and it takes the last handle
for a failure. -/
theorem high_handles_lost :
    let high : Entity := ⟨0x8000000000000000⟩
    let native := ofTable (numbering high)
    native.entities () = .answer (.array [.integer high.toInt]) [] () ∧ native.isAlive high () = (true, ()) ∧
      native.ask high.toInt .isAlive () = .answer (.boolean false) [] () ∧
      (ofTable (numbering ⟨0xffffffffffffffff⟩)).create () = .answer (.integer (-1)) [] () ∧
      ¬ native.HandlesSurvive fun _ => True := by
  intro high native
  refine ⟨rfl, rfl, rfl, rfl, fun survive => ?_⟩
  have low := handlesSurvive_iff.mp survive () high trivial (numbering_gives high)
  exact absurd low (by decide)

section Engine

variable {engine : Engine}

/-- The entities of a bounded store are from the lower half. -/
theorem alive_low {store : EntityStore} (bounded : store.Bounded) (alive : store.isAlive entity) :
    entity.bits < 0x8000000000000000 := by
  obtain ⟨texts, held⟩ := Option.isSome_iff_exists.mp alive
  exact Entity.ofInt_toInt_iff.mp (ofInt_toInt bounded held)

/-- Creating an entity only grows the store. -/
theorem createEntity_grows (engine : Engine) : engine.store.Grows engine.createEntity.1.store := by
  unfold Engine.createEntity
  split
  · exact .refl _
  · exact EntityStore.spawn_grows engine.store []

/-- The handles of the built-in engine stay in the lower half as long as there is room for another entity. -/
theorem engine_gives_low (orderly : engine.store.Orderly) (room : engine.createEntity.1.store.Bounded)
    (gives : ofEngine.Gives engine entity) : entity.bits < 0x8000000000000000 := by
  have bounded : engine.store.Bounded := room.of_grows (createEntity_grows engine)
  rcases gives with ⟨list, later, listed, among⟩ | ⟨later, created⟩
  · have listed : engine.liveEntities everyEntity = .ok list := congrArg Prod.fst listed
    unfold Engine.liveEntities at listed
    split at listed
    · cases listed
    · cases listed
      have alive := List.mem_mergeSort.mp (List.mem_of_mem_take among)
      exact alive_low bounded ((EntityStore.mem_alive bounded entity).mp alive)
  · have created : engine.createEntity.2 = .ok entity := congrArg Prod.fst created
    unfold Engine.createEntity at created room
    split at created
    · cases created
    · next willing =>
        have room : (engine.store.spawn []).1.Bounded := by
          rw [willing] at room
          exact room
        have spawned := EntityStore.spawn_spawned orderly room
        have named : (engine.store.spawn []).2 = entity := Except.ok.inj created
        rw [named] at spawned
        refine alive_low room ?_
        rw [EntityStore.isAlive, spawned.texts, if_pos rfl]
        rfl

/-- Whatever scripts and hosts do to the built-in engine, its handles survive their way through scripts. -/
theorem engine_handlesSurvive :
    ofEngine.HandlesSurvive fun engine => engine.createEntity.1.store.Bounded ∧
      ∃ interval draws accesses, engine = (Access.run (fresh interval draws) accesses).engine := by
  rw [handlesSurvive_iff]
  rintro engine entity ⟨room, interval, draws, accesses, rfl⟩ gives
  obtain ⟨history, reflects, -⟩ := run_reflects interval draws accesses (room.of_grows (createEntity_grows _))
  exact engine_gives_low reflects.orderly room gives

/-- Whenever the interface gives out an integer as that of an entity, it takes the integer for this entity in every
later call. -/
theorem interface_identifies (interval : Float32) (draws : Draws) (accesses : List Access) (handle : Int64)
    (room : (Access.run (fresh interval draws) accesses).engine.createEntity.1.store.Bounded) :
    let outside := Access.run (fresh interval draws) accesses
    ((∃ items after, Interface.entities outside = .answer (.array items) after ∧ .integer handle ∈ items) ∨
      handle ≠ -1 ∧ ∃ after, Interface.createEntity outside = .answer (.integer handle) after) →
    ∃ entity, ofEngine.Gives outside.engine entity ∧ entity.toInt = handle ∧
      ∀ errand later, Interface.engineCall errand.name (.integer handle :: errand.arguments) later =
        (ofEngine.perform entity errand later.engine).reply later := by
  intro outside told
  have given : ∃ entity, ofEngine.Gives outside.engine entity ∧ entity.toInt = handle := by
    rw [entities_native, createEntity_native] at told
    rcases told with ⟨items, after, answered, held⟩ | ⟨proper, after, answered⟩
    · obtain ⟨records, later, answered⟩ := answer_of_reply answered
      exact entities_told answered held
    · unfold create at answered
      rcases created : ofEngine.createEntity outside.engine with ⟨error | entity, later⟩
      · rw [created] at answered
        cases answered
        exact absurd rfl proper
      · rw [created] at answered
        cases answered
        exact ⟨entity, .inr ⟨later, created⟩, rfl⟩
  obtain ⟨entity, gives, rfl⟩ := given
  have identifies := engine_handlesSurvive.identified _ entity ⟨room, interval, draws, accesses, rfl⟩ gives
  refine ⟨entity, gives, rfl, fun errand later => ?_⟩
  rw [engineCall_native, identifies.asked]

end Engine

end Native

end Script

end ScriptHost
