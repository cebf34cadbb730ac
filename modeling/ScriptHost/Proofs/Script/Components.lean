/-
This file shows that a component which a script writes is read as the same value until somebody writes it again.
-/
import ScriptHost.Proofs.Engine.Keeping
import ScriptHost.Proofs.Script.Crossing
import ScriptHost.Script.Interface

namespace ScriptHost

section Handles

variable {handle : Int64} {entity : Entity}

/-- A handle that is known is the integer of its entity. -/
theorem toInt_of_ofInt (known : Entity.ofInt handle = some entity) : handle = entity.toInt := by
  unfold Entity.ofInt at known
  split at known
  · cases known
  · cases known
    exact (Int64.toInt64_toUInt64 handle).symm

/-- Handles of living entities are no negative numbers. -/
theorem ofInt_toInt {store : EntityStore} {texts : Texts} (bounded : store.Bounded)
    (alive : store.texts? entity = some texts) : Entity.ofInt entity.toInt = some entity := by
  have young := bounded.young_at (EntityStore.indexOf entity)
  rw [EntityStore.placeAt_of_texts? alive] at young
  have small : 2 * entity.bits.toNat < 2 ^ 64 := by
    have young : entity.bits.toNat / 0x100000000 < 0x80000000 := young
    omega
  have natural : ¬ entity.bits.toInt64 < 0 := by
    rw [Int64.lt_iff_toInt_lt, Int64.toInt, UInt64.toBitVec_toInt64, BitVec.toInt_eq_toNat_of_lt small]
    exact Int.not_lt.mpr (Int.natCast_nonneg _)
  rw [Entity.ofInt, Entity.toInt, if_neg natural, UInt64.toUInt64_toInt64]

end Handles

namespace Script

/-- A call that is refused or panics leaves everything as it was. -/
def Reply.leaves (outside : Outside) : Reply → Outside
  | .answer _ after => after
  | .refused | .panicked _ => outside

/-- A host calls the engine itself, and a script calls it through the interface. -/
inductive Access where
  | host (call : Engine.Call)
  | script (name : String) (arguments : List Value)

namespace Access

def perform (outside : Outside) : Access → Outside
  | .host call => { outside with engine := (outside.engine.answer call).1 }
  | .script name arguments => (Interface.engineCall name arguments outside).leaves outside

def run (outside : Outside) (accesses : List Access) : Outside :=
  accesses.foldl perform outside

/-- The access destroys the entity or sets this component of it. -/
def Touches (entity : Entity) (component : String) : Access → Prop
  | .host call => call.Touches entity component
  | .script name arguments =>
      name = "destroy_entity" ∧ arguments = [.integer entity.toInt] ∨
        ∃ value, name = "set_component" ∧ arguments = [.integer entity.toInt, .string component, value]

/-- The engine is as after some calls, and the access touches what one of them touches. -/
def Calls (access : Access) (engine after : Engine) : Prop :=
  ∃ calls : List Engine.Call, (∀ history, (engine.play history calls).1 = after) ∧
    ∀ entity component, (∃ call ∈ calls, call.Touches entity component) → access.Touches entity component

variable {access : Access} {engine : Engine} {outside : Outside}

/-- An access may do without any call. -/
theorem calls_none : access.Calls engine engine :=
  ⟨[], fun _ => rfl, nofun⟩

/-- An access may make one call. -/
theorem calls_one {call : Engine.Call}
    (touches : ∀ entity component, call.Touches entity component → access.Touches entity component) :
    access.Calls engine (engine.answer call).1 := by
  refine ⟨[call], fun _ => rfl, ?_⟩
  rintro entity component ⟨other, among, same⟩
  obtain rfl := List.mem_singleton.mp among
  exact touches entity component same

/-- An access that leaves the engine as it is makes no call. -/
theorem calls_same (same : engine = outside.engine) : access.Calls outside.engine engine := by
  rw [same]
  exact calls_none

section Reading

open Interface (entities isAlive getComponent getScriptData)

/-- Listing entities leaves the engine as it is. -/
theorem entities_engine : ((entities outside).leaves outside).engine = outside.engine := by
  unfold entities
  split <;> rfl

/-- Asking whether an entity is alive leaves the engine as it is. -/
theorem isAlive_engine (handle : Int64) : ((isAlive handle outside).leaves outside).engine = outside.engine := by
  unfold isAlive
  split <;> rfl

/-- Reading a component leaves the engine as it is. -/
theorem getComponent_engine (handle : Int64) (component : String) :
    ((getComponent handle component outside).leaves outside).engine = outside.engine := by
  unfold getComponent
  split
  · rfl
  · split
    · rfl
    · rfl
    · split <;> rfl

/-- Reading data leaves the engine as it is. -/
theorem getScriptData_engine (handle : Int64) (key : String) :
    ((getScriptData handle key outside).leaves outside).engine = outside.engine := by
  unfold getScriptData
  split
  · rfl
  · split
    · rfl
    · split <;> rfl

/-- A draw leaves the engine alone. -/
theorem rand_engine (low high : Float) :
    ((Interface.rand low high outside).leaves outside).engine = outside.engine := by
  unfold Interface.rand
  split
  · split <;> rfl
  · rfl

end Reading

section Writing

/-- A write that is refused does nothing to the engine, and others do what the call does. -/
theorem calls_settle (call : Engine.Call) {result : Engine × Except NativeError Unit} {label : String}
    {fields : List (String × String)} (same : outside.engine.answer call = result.map id (.ofResult fun _ => .done))
    (touches : ∀ entity component, call.Touches entity component → access.Touches entity component) :
    access.Calls outside.engine ((Interface.settle outside label fields result).leaves outside).engine := by
  obtain ⟨engine, error | done⟩ := result
  · exact calls_none
  · change access.Calls outside.engine engine
    rw [← show (outside.engine.answer call).1 = engine from congrArg Prod.fst same]
    exact calls_one touches

/-- Creating an entity is at most one call. -/
theorem calls_createEntity : access.Calls outside.engine ((Interface.createEntity outside).leaves outside).engine := by
  have after : (outside.engine.answer .create).1 = outside.engine.createEntity.1 := rfl
  unfold Interface.createEntity
  rcases made : outside.engine.createEntity with ⟨engine, error | entity⟩
  · exact calls_none
  · change access.Calls outside.engine engine
    rw [made] at after
    rw [← show _ = engine from after]
    refine calls_one ?_
    rintro entity component (same | ⟨text, same⟩) <;> cases same

/-- Destroying an entity is at most one call. -/
theorem calls_destroyEntity (handle : Int64) :
    Calls (.script "destroy_entity" [.integer handle]) outside.engine
      ((Interface.destroyEntity handle outside).leaves outside).engine := by
  unfold Interface.destroyEntity
  split
  · exact calls_none
  · next entity known =>
      obtain rfl := toInt_of_ofInt known
      refine calls_settle (.destroy entity) rfl ?_
      rintro _ component (same | ⟨text, same⟩) <;> cases same
      exact .inl ⟨rfl, rfl⟩

/-- Writing a component is at most one call. -/
theorem calls_setComponent (handle : Int64) (component : String) (value : Value) :
    Calls (.script "set_component" [.integer handle, .string component, value]) outside.engine
      ((Interface.setComponent handle component value outside).leaves outside).engine := by
  unfold Interface.setComponent
  split
  · exact calls_none
  · next entity known =>
      obtain rfl := toInt_of_ofInt known
      split
      · exact calls_none
      · next json written =>
          refine calls_settle (.setComponent entity component json.write) rfl ?_
          rintro _ _ (same | ⟨text, same⟩) <;> cases same
          exact .inr ⟨value, rfl, rfl⟩

/-- Writing data is at most one call. -/
theorem calls_setScriptData (handle : Int64) (key value : String) :
    access.Calls outside.engine ((Interface.setScriptData handle key value outside).leaves outside).engine := by
  unfold Interface.setScriptData
  split
  · exact calls_none
  · next entity known =>
      refine calls_settle (.setData entity key value) rfl ?_
      rintro _ _ (same | ⟨text, same⟩) <;> cases same

/-- Removing data is at most one call. -/
theorem calls_removeScriptData (handle : Int64) (key : String) :
    access.Calls outside.engine ((Interface.removeScriptData handle key outside).leaves outside).engine := by
  unfold Interface.removeScriptData
  split
  · exact calls_none
  · next entity known =>
      refine calls_settle (.removeData entity key) rfl ?_
      rintro _ _ (same | ⟨text, same⟩) <;> cases same

end Writing

/-- Whatever a script or a host does to the engine is done by calls. -/
theorem perform_calls (access : Access) (outside : Outside) :
    access.Calls outside.engine (access.perform outside).engine := by
  cases access with
  | host call => exact calls_one fun _ _ touches => touches
  | script name arguments =>
      change Calls _ outside.engine ((Interface.engineCall name arguments outside).leaves outside).engine
      unfold Interface.engineCall
      split
      · exact calls_same entities_engine
      · exact calls_createEntity
      · exact calls_none
      · exact calls_none
      · exact calls_same (isAlive_engine _)
      · exact calls_destroyEntity _
      · exact calls_same (getComponent_engine _ _)
      · exact calls_setComponent _ _ _
      · exact calls_same (getScriptData_engine _ _)
      · exact calls_setScriptData _ _ _
      · exact calls_removeScriptData _ _
      · exact calls_same (rand_engine _ _)
      · exact calls_none

/-- A run is made of the calls of its parts. -/
theorem run_calls (accesses : List Access) (outside : Outside) :
    ∃ calls : List Engine.Call, (∀ history, (outside.engine.play history calls).1 = (run outside accesses).engine) ∧
      ∀ entity component, (∃ call ∈ calls, call.Touches entity component) →
        ∃ access ∈ accesses, access.Touches entity component := by
  induction accesses generalizing outside with
  | nil => exact ⟨[], fun _ => rfl, nofun⟩
  | cons access rest ih =>
      obtain ⟨calls, played, touches⟩ := perform_calls access outside
      obtain ⟨others, later, touch⟩ := ih (access.perform outside)
      refine ⟨calls ++ others, fun history => ?_, ?_⟩
      · rw [Engine.play_append, played]
        exact later _
      · rintro entity component ⟨call, among, touched⟩
        rcases List.mem_append.mp among with first | second
        · exact ⟨access, List.mem_cons_self, touches entity component ⟨call, first, touched⟩⟩
        · obtain ⟨other, held, touched⟩ := touch entity component ⟨call, second, touched⟩
          exact ⟨other, List.mem_cons_of_mem _ held, touched⟩

end Access

section Kept

open Access (run)
open Engine (History Reflects)

variable {outside : Outside} {history : History} {entity : Entity} {component : String}

/-- Nothing has happened yet. -/
def fresh (interval : Float32) (draws : Draws) : Outside :=
  ⟨.create interval, draws, [], []⟩

/-- Behind all accesses there is an honest history that the engine reflects. -/
theorem run_reflects (interval : Float32) (draws : Draws) (accesses : List Access)
    (room : (run (fresh interval draws) accesses).engine.store.Bounded) :
    ∃ history, Reflects (run (fresh interval draws) accesses).engine history ∧ history.Honest := by
  obtain ⟨calls, played, -⟩ := Access.run_calls accesses (fresh interval draws)
  rw [← played []] at room ⊢
  exact ⟨_, Engine.play_reflects (Engine.create_reflects interval) History.honest_nil calls room⟩

/-- What leaves the component alone keeps it. -/
theorem run_spared (reflects : Reflects outside.engine history) (honest : history.Honest)
    (lives : history.Lives entity) {accesses : List Access}
    (spare : ∀ access ∈ accesses, ¬ access.Touches entity component)
    (room : (run outside accesses).engine.store.Bounded) :
    ∃ later, Reflects (run outside accesses).engine later ∧ later.Honest ∧ later.Lives entity ∧
      later.current .components entity component = history.current .components entity component := by
  obtain ⟨calls, played, touches⟩ := Access.run_calls accesses outside
  have apart : ∀ call ∈ calls, ¬ call.Touches entity component := fun call among touched => by
    obtain ⟨access, held, same⟩ := touches entity component ⟨call, among, touched⟩
    exact spare access held same
  rw [← played history] at room ⊢
  obtain ⟨reflects', honest'⟩ := Engine.play_reflects reflects honest calls room
  obtain ⟨alive, same⟩ := Engine.play_spared reflects honest lives calls apart room
  exact ⟨_, reflects', honest', alive, same⟩

/-- This is the value that a component text stands for. -/
def shown (text : Option String) : Value :=
  ((text.bind Json.Value.read?).map Value.ofJson).getD .unit

/-- A component is shown as it stands in the history. -/
theorem getComponent_current (known : Entity.ofInt entity.toInt = some entity)
    (reflects : Reflects outside.engine history) (honest : history.Honest) (lives : history.Lives entity)
    (fine : component ∉ outside.engine.failing) :
    Interface.getComponent entity.toInt component outside =
      .answer (shown (history.current .components entity component)) outside := by
  unfold Interface.getComponent
  rw [known]
  simp only [Engine.component_current reflects lives fine]
  cases held : history.current .components entity component with
  | none => rfl
  | some text =>
      obtain ⟨json, read⟩ := Option.isSome_iff_exists.mp (History.current_readable honest held)
      simp only [shown, read, Option.bind_some, Option.map_some, Option.getD_some]

/-- A component stays as it is while no access touches it. -/
theorem getComponent_spared (known : Entity.ofInt entity.toInt = some entity)
    (reflects : Reflects outside.engine history) (honest : history.Honest) (lives : history.Lives entity)
    {accesses : List Access} (spare : ∀ access ∈ accesses, ¬ access.Touches entity component)
    (room : (run outside accesses).engine.store.Bounded) (fine : component ∉ (run outside accesses).engine.failing) :
    Interface.getComponent entity.toInt component (run outside accesses) =
      .answer (shown (history.current .components entity component)) (run outside accesses) := by
  obtain ⟨later, reflects, honest, lives, same⟩ := run_spared reflects honest lives spare room
  rw [getComponent_current known reflects honest lives fine, same]

/-- The store only grows by accesses. -/
theorem run_grows (accesses : List Access) : outside.engine.store.Grows (run outside accesses).engine.store := by
  obtain ⟨calls, played, -⟩ := Access.run_calls accesses outside
  rw [← played []]
  exact Engine.play_grows calls

/-- What was written exactly and not too deep is shown as it is. -/
theorem shown_write {json : Json.Value} (precise : json.Exact) (shallow : json.depth ≤ Json.depthLimit) :
    shown (some json.write) = .ofJson json := by
  rw [shown, Option.bind_some, Json.Value.read?_write precise, if_pos shallow]
  rfl

section Writing

variable {texts : Texts} {value : Value} {json : Json.Value} (known : Entity.ofInt entity.toInt = some entity)
  (alive : outside.engine.store.texts? entity = some texts) (fine : component ∉ outside.engine.failing)
  (written : value.toJson? = some json) (precise : json.Exact)

include known alive fine written precise

/-- The engine takes a text that it can read. -/
theorem setComponent_shallow (shallow : json.depth ≤ Json.depthLimit) :
    (outside.engine.answer (.setComponent entity component json.write)).2 = .done ∧
      Interface.setComponent entity.toInt component value outside =
        .answer (.boolean true)
          { outside with engine := (outside.engine.answer (.setComponent entity component json.write)).1 } := by
  have readable : (Json.Value.read? json.write).isSome := by
    rw [Json.Value.read?_write precise, if_pos shallow]
    rfl
  have set := Engine.setComponent_eq alive component json.write
  rw [if_neg (mt List.contains_iff_mem.mp fine), if_pos readable] at set
  simp only [Interface.setComponent, known, written, Engine.answer, set]
  exact ⟨rfl, rfl⟩

/-- A value that is too deep is not written. -/
theorem setComponent_deep (deep : ¬ json.depth ≤ Json.depthLimit) :
    ∃ after, Interface.setComponent entity.toInt component value outside = .answer (.boolean false) after ∧
      after.engine = outside.engine := by
  have unreadable : ¬ (Json.Value.read? json.write).isSome := by
    rw [Json.Value.read?_write precise, if_neg deep]
    exact Bool.false_ne_true
  have set := Engine.setComponent_eq alive component json.write
  rw [if_neg (mt List.contains_iff_mem.mp fine), if_neg unreadable] at set
  simp only [Interface.setComponent, known, written, set]
  exact ⟨_, rfl, rfl⟩

end Writing

/-- A component that was set is read as the value that was written, and one that could not be set as the value that it
had before, whatever else happens as long as nobody sets it again or destroys its entity. -/
theorem component_kept (interval : Float32) (draws : Draws) (earlier : List Access) (entity : Entity)
    (component : String) (value : Value) (storable : value.Storable)
    (room : (run (fresh interval draws) earlier).engine.store.Bounded)
    (alive : (run (fresh interval draws) earlier).engine.isAlive entity)
    (fine : component ∉ (run (fresh interval draws) earlier).engine.failing) :
    let before := run (fresh interval draws) earlier
    let after := Access.perform before (.script "set_component" [.integer entity.toInt, .string component, value])
    ∃ stored done,
      Interface.getComponent entity.toInt component before = .answer stored before ∧
      Interface.setComponent entity.toInt component value before = .answer (.boolean done) after ∧
      (done = true ↔ value.depth ≤ Json.depthLimit) ∧
      ∀ later : List Access, (∀ access ∈ later, ¬ access.Touches entity component) →
        let final := run after later
        final.engine.store.Bounded → component ∉ final.engine.failing →
          Interface.getComponent entity.toInt component final = .answer (if done then value else stored) final := by
  intro before after
  obtain ⟨history, reflects, honest⟩ := run_reflects interval draws earlier room
  have lives : history.Lives entity := (reflects.alive entity).mp alive
  obtain ⟨texts, held⟩ := Option.isSome_iff_exists.mp alive
  have known : Entity.ofInt entity.toInt = some entity := ofInt_toInt room held
  obtain ⟨json, written, precise, depth, back⟩ := Value.toJson?_storable value storable
  have get := getComponent_current known reflects honest lives fine
  have left : after = (Interface.setComponent entity.toInt component value before).leaves before := rfl
  rw [← depth]
  by_cases shallow : json.depth ≤ Json.depthLimit
  · obtain ⟨done, set⟩ := setComponent_shallow known held fine written precise shallow
    rw [show Interface.setComponent entity.toInt component value before = _ from set] at left
    refine ⟨_, true, get, ?_, iff_of_true rfl shallow, fun later spare => ?_⟩
    · rw [left]
      exact set
    · intro final room fine
      have bounded := room.of_grows (run_grows later)
      rw [left] at bounded
      obtain ⟨latest, reflects, honest, lives, current⟩ :=
        Engine.setComponent_current reflects honest lives done bounded
      have reflects : Reflects after.engine latest := by
        rw [left]
        exact reflects
      rw [getComponent_spared known reflects honest lives spare room fine, current, shown_write precise shallow, back]
      rfl
  · obtain ⟨refused, set, same⟩ := setComponent_deep known held fine written precise shallow
    -- A value that is nested too deep changes no text, so what was read before is read on.
    rw [show Interface.setComponent entity.toInt component value before = _ from set] at left
    refine ⟨_, false, get, ?_, iff_of_false Bool.false_ne_true shallow, fun later spare => ?_⟩
    · rw [left]
      exact set
    · intro final room fine
      have reflects : Reflects after.engine history := by
        rw [left, Reply.leaves, same]
        exact reflects
      exact getComponent_spared known reflects honest lives spare room fine

/-- This is the handle of the first entity. -/
def patrol : Entity :=
  ⟨0x100000000⟩

/-- The component of a patrol is a map with an array in it, and there is a component before it. -/
def patrolValue : Value :=
  .map [("name", .string "say \"hö\""), ("route", .array [.integer (-7), .unit, .boolean true, .integer 12])]

def patrolEarlier : List Access :=
  [.host .create, .script "set_component" [.integer patrol.toInt, .string "Patrol", .string "none"]]

def patrolLater : List Access :=
  [.script "log" [.string "on the way"], .script "set_component" [.integer patrol.toInt, .string "Mood", .unit],
    .host (.failKey "Mood")]

/-- A component that was written after other accesses is read as the same value. -/
theorem component_kept_patrol :
    let before := run (fresh 0 .lowest) patrolEarlier
    let after := Access.perform before (.script "set_component" [.integer patrol.toInt, .string "Patrol", patrolValue])
    let final := run after patrolLater
    patrolValue.Storable ∧ before.engine.store.Bounded ∧ before.engine.isAlive patrol ∧
      "Patrol" ∉ before.engine.failing ∧ final.engine.store.Bounded ∧ "Patrol" ∉ final.engine.failing ∧
      Interface.setComponent patrol.toInt "Patrol" patrolValue before = .answer (.boolean true) after ∧
      Interface.getComponent patrol.toInt "Patrol" final = .answer patrolValue final := by
  intro before after final
  have storable : patrolValue.Storable := ⟨by decide, trivial, ⟨trivial, trivial, trivial, trivial, trivial⟩, trivial⟩
  have room : before.engine.store.Bounded := ⟨by decide +kernel, by decide +kernel⟩
  have alive : before.engine.isAlive patrol := by decide +kernel
  have fine : "Patrol" ∉ before.engine.failing := by decide +kernel
  have later : final.engine.store.Bounded := ⟨by decide +kernel, by decide +kernel⟩
  have well : "Patrol" ∉ final.engine.failing := by decide +kernel
  obtain ⟨stored, done, get, set, shallow, kept⟩ :=
    component_kept 0 .lowest patrolEarlier patrol "Patrol" patrolValue storable room alive fine
  obtain rfl : done = true := shallow.mpr (by decide +kernel)
  have spare : ∀ access ∈ patrolLater, ¬ access.Touches patrol "Patrol" := by
    rw [patrolLater, List.forall_mem_cons, List.forall_mem_cons, List.forall_mem_singleton]
    refine ⟨?_, ?_, ?_⟩
    · rintro (⟨name, -⟩ | ⟨value, name, -⟩) <;> exact absurd name (by decide)
    · rintro (⟨name, -⟩ | ⟨value, -, same⟩)
      · exact absurd name (by decide)
      · simp only [List.cons.injEq, Value.string.injEq] at same
        exact absurd same.2.1 (by decide)
    · rintro (same | ⟨text, same⟩) <;> cases same
  have got := kept patrolLater spare
  simp only [if_true] at got
  -- Nothing but names may be unfolded here, since the unifier would run the whole scene otherwise.
  with_reducible exact ⟨storable, room, alive, fine, later, well, set, got later well⟩

end Kept

end Script

end ScriptHost
