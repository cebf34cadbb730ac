/-
This file reads off a history of calls which entities live and which texts they have, and shows that the engine
answers as its history says.
-/
import ScriptHost.Proofs.Engine.Places
import ScriptHost.Proofs.Session.Together

namespace ScriptHost.Engine

/-- These calls make, use and destroy entities, or choose the keys that fail. -/
inductive Call where
  | spawn (data : List (String × String))
  | create
  | destroy (entity : Entity)
  | setData (entity : Entity) (key value : String)
  | getData (entity : Entity) (key : String)
  | removeData (entity : Entity) (key : String)
  | setComponent (entity : Entity) (key text : String)
  | getComponent (entity : Entity) (key : String)
  | failKey (key : String)
  | clearFailures
  deriving DecidableEq

inductive Reply where
  | entity (entity : Entity)
  | done
  | text (value : Option String)
  | failed (error : NativeError)
  deriving DecidableEq

def Reply.ofResult {α : Type} (shown : α → Reply) : Except NativeError α → Reply
  | .ok value => shown value
  | .error error => .failed error

/-- The texts of a new entity are a map, so a later entry of a key replaces an earlier one. -/
def answer (engine : Engine) : Call → Engine × Reply
  | .spawn data => (engine.spawn (Json.sortMembers data)).map id .entity
  | .create => engine.createEntity.map id (.ofResult .entity)
  | .destroy entity => (engine.destroyEntity entity).map id (.ofResult fun _ => .done)
  | .setData entity key value => (engine.setScriptData entity key value).map id (.ofResult fun _ => .done)
  | .getData entity key => (engine, .ofResult .text (engine.scriptData entity key))
  | .removeData entity key => (engine.removeScriptData entity key).map id (.ofResult fun _ => .done)
  | .setComponent entity key text => (engine.setComponent entity key text).map id (.ofResult fun _ => .done)
  | .getComponent entity key => (engine, .ofResult .text (engine.component entity key))
  | .failKey key => ({ engine with failing := key :: engine.failing }, .done)
  | .clearFailures => ({ engine with failing := [] }, .done)

abbrev Exchange := Call × Reply

/-- The latest exchange stands first. -/
abbrev History := List Exchange

def play (engine : Engine) (history : History) : List Call → Engine × History
  | [] => (engine, history)
  | call :: rest => play (engine.answer call).1 ((call, (engine.answer call).2) :: history) rest

namespace History

def issues : Exchange → Option Entity
  | (_, .entity entity) => some entity
  | _ => none

/-- These are the entities that calls have returned. -/
def issued (history : History) : List Entity :=
  history.filterMap issues

/-- What an exchange begins is in force until another one ends it. -/
def InForce (begins ends : Exchange → Prop) (history : History) : Prop :=
  ∃ later start earlier, history = later ++ start :: earlier ∧ begins start ∧ ∀ exchange ∈ later, ¬ ends exchange

def Lives (entity : Entity) : History → Prop :=
  InForce (fun exchange => issues exchange = some entity) fun exchange => exchange = (.destroy entity, .done)

def Failing (key : String) : History → Prop :=
  InForce (fun exchange => exchange = (.failKey key, .done)) fun exchange => exchange = (.clearFailures, .done)

end History

/-- An entity has two tables of texts. -/
inductive Shelf where
  | data
  | components
  deriving DecidableEq

def Shelf.table (texts : Texts) : Shelf → List (String × String)
  | .data => texts.data
  | .components => texts.components

namespace History

/-- This is the text that an exchange leaves under a key, if it touches the key at all. -/
def written (shelf : Shelf) (entity : Entity) (key : String) : Exchange → Option (Option String)
  | (.spawn data, .entity other) =>
      if other = entity then some (if shelf = .data then findText key data.reverse else none) else none
  | (.create, .entity other) => if other = entity then some none else none
  | (.setData other name value, .done) =>
      if shelf = .data ∧ other = entity ∧ name = key then some (some value) else none
  | (.removeData other name, .done) => if shelf = .data ∧ other = entity ∧ name = key then some none else none
  | (.setComponent other name text, .done) =>
      if shelf = .components ∧ other = entity ∧ name = key then some (some text) else none
  | _ => none

/-- The latest exchange that touched the key decides. -/
def current (shelf : Shelf) (entity : Entity) (key : String) (history : History) : Option String :=
  (history.findSome? (written shelf entity key)).join

open Classical in
/-- A call fails for its key first, then for its text, and for its entity last. -/
noncomputable def guarded (history : History) (call : String) (entity : Entity) (key : String) (readable : Bool)
    (good : Reply) : Reply :=
  if Failing key history then .failed (.callFailed call entity key (-1))
  else if readable = false then .failed (.callFailed call entity key (-2))
  else if Lives entity history then good
  else .failed (.deadEntity entity)

open Classical in
/-- A history allows one reply to a call, except that any new entity will do. -/
def Allows (history : History) : Call → Reply → Prop
  | .spawn _, reply => ∃ entity, reply = .entity entity ∧ entity ∉ history.issued
  | .create, reply => ∃ entity, reply = .entity entity ∧ entity ∉ history.issued
  | .destroy entity, reply => reply = if Lives entity history then .done else .failed (.deadEntity entity)
  | .setData entity key _, reply => reply = history.guarded "set_script_data" entity key true .done
  | .getData entity key, reply =>
      reply = history.guarded "get_script_data" entity key true (.text (history.current .data entity key))
  | .removeData entity key, reply => reply = history.guarded "remove_script_data" entity key true .done
  | .setComponent entity key text, reply =>
      reply = history.guarded "set_component_json" entity key (Json.Value.read? text).isSome .done
  | .getComponent entity key, reply =>
      reply = history.guarded "get_component_json" entity key true (.text (history.current .components entity key))
  | .failKey _, reply => reply = .done
  | .clearFailures, reply => reply = .done

/-- Every reply was allowed by what came before it. -/
def Honest (history : History) : Prop :=
  ∀ later call reply earlier, history = later ++ (call, reply) :: earlier → Allows earlier call reply

variable {history : History} {exchange : Exchange}

/-- A state is in force if the newest exchange began it, or did not end one that was in force. -/
theorem inForce_cons {begins ends : Exchange → Prop} :
    InForce begins ends (exchange :: history) ↔ begins exchange ∨ ¬ ends exchange ∧ InForce begins ends history := by
  constructor
  · rintro ⟨later, start, earlier, same, begun, going⟩
    cases later with
    | nil =>
        obtain ⟨rfl, rfl⟩ := List.cons.inj same
        exact .inl begun
    | cons latest later =>
        obtain ⟨rfl, rfl⟩ := List.cons.inj same
        refine .inr ⟨going exchange List.mem_cons_self, later, start, earlier, rfl, begun, fun other held => ?_⟩
        exact going other (List.mem_cons_of_mem _ held)
  · rintro (begun | ⟨goes, later, start, earlier, rfl, begun, going⟩)
    · exact ⟨[], exchange, history, rfl, begun, nofun⟩
    · refine ⟨exchange :: later, start, earlier, rfl, begun, fun other held => ?_⟩
      rcases List.mem_cons.mp held with rfl | held
      · exact goes
      · exact going other held

/-- Nothing is in force before the first exchange. -/
theorem not_inForce_nil {begins ends : Exchange → Prop} : ¬ InForce begins ends [] := by
  rintro ⟨later, start, earlier, same, -⟩
  exact List.append_ne_nil_of_right_ne_nil later (List.cons_ne_nil start earlier) same.symm

/-- An empty history is honest. -/
theorem honest_nil : Honest [] := fun later _ _ _ same =>
  absurd same.symm (List.append_ne_nil_of_right_ne_nil later (List.cons_ne_nil _ _))

/-- An honest history may be continued by what it allows. -/
theorem honest_cons {call : Call} {reply : Reply} (allowed : history.Allows call reply) (honest : history.Honest) :
    Honest ((call, reply) :: history) := by
  rintro (- | ⟨latest, later⟩) other answer earlier same
  · cases same
    exact allowed
  · obtain ⟨-, same⟩ := List.cons.inj same
    exact honest later other answer earlier same

end History

section Guard

/-- The three reasons to reject a call are checked in this order. -/
def guard (engine : Engine) (call : String) (entity : Entity) (key : String) (readable : Bool)
    (good : Texts → Engine × Reply) : Engine × Reply :=
  if engine.failing.contains key then (engine, .failed (.callFailed call entity key (-1)))
  else if readable = false then (engine, .failed (.callFailed call entity key (-2)))
  else
    match engine.store.texts? entity with
    | some texts => good texts
    | none => (engine, .failed (.deadEntity entity))

def withStore (engine : Engine) (store : EntityStore) : Engine × Reply :=
  ({ engine with store }, .done)

variable (engine : Engine) (entity : Entity) (key : String)

/-- A guarded call fails and changes nothing, or it finds the texts of a living entity. -/
theorem guard_cases (call : String) (readable : Bool) (good : Texts → Engine × Reply) :
    (∃ error, engine.guard call entity key readable good = (engine, .failed error)) ∨
      ∃ texts, engine.store.texts? entity = some texts ∧
        engine.guard call entity key readable good = good texts := by
  unfold guard
  split
  · exact .inl ⟨_, rfl⟩
  split
  · exact .inl ⟨_, rfl⟩
  split
  · next texts found => exact .inr ⟨texts, found, rfl⟩
  · exact .inl ⟨_, rfl⟩

/-- Writing data is a guarded change of the texts. -/
theorem answer_setData (value : String) :
    engine.answer (.setData entity key value) = engine.guard "set_script_data" entity key true fun texts =>
      engine.withStore (engine.store.setTexts entity { texts with data := Json.put key value texts.data }) := by
  simp only [answer, setScriptData, guard, checkKey, withTexts, resolve]
  cases engine.failing.contains key with
  | true => rfl
  | false => cases engine.store.texts? entity <;> rfl

/-- Removing data is a guarded change of the texts. -/
theorem answer_removeData :
    engine.answer (.removeData entity key) = engine.guard "remove_script_data" entity key true fun texts =>
      engine.withStore (engine.store.setTexts entity { texts with data := removeText key texts.data }) := by
  simp only [answer, removeScriptData, guard, checkKey, withTexts, resolve]
  cases engine.failing.contains key with
  | true => rfl
  | false => cases engine.store.texts? entity <;> rfl

/-- Writing a component is a guarded change of the texts, and the text has to be readable. -/
theorem answer_setComponent (text : String) :
    engine.answer (.setComponent entity key text) =
      engine.guard "set_component_json" entity key (Json.Value.read? text).isSome fun texts =>
        engine.withStore
          (engine.store.setTexts entity { texts with components := Json.put key text texts.components }) := by
  simp only [answer, setComponent, guard, checkKey, checkJson, withTexts, resolve]
  cases engine.failing.contains key with
  | true => rfl
  | false =>
      cases (Json.Value.read? text).isSome with
      | false => rfl
      | true => cases engine.store.texts? entity <;> rfl

/-- Reading data is a guarded look at the texts. -/
theorem answer_getData :
    engine.answer (.getData entity key) = engine.guard "get_script_data" entity key true fun texts =>
      (engine, .text (findText key texts.data)) := by
  simp only [answer, scriptData, guard, checkKey, resolve]
  cases engine.failing.contains key with
  | true => rfl
  | false => cases engine.store.texts? entity <;> rfl

/-- Reading a component is a guarded look at the texts. -/
theorem answer_getComponent :
    engine.answer (.getComponent entity key) = engine.guard "get_component_json" entity key true fun texts =>
      (engine, .text (findText key texts.components)) := by
  simp only [answer, component, guard, checkKey, resolve]
  cases engine.failing.contains key with
  | true => rfl
  | false => cases engine.store.texts? entity <;> rfl

/-- An entity is created without texts. -/
theorem answer_create (noCode : engine.createCode = none) :
    engine.answer .create = (engine.spawn []).map id .entity := by
  simp only [answer, createEntity, noCode]
  rfl

/-- Only living entities can be destroyed. -/
theorem answer_destroy :
    engine.answer (.destroy entity) =
      match engine.store.texts? entity with
      | some _ => engine.withStore (engine.store.destroy entity)
      | none => (engine, .failed (.deadEntity entity)) := by
  simp only [answer, destroyEntity, resolve]
  cases engine.store.texts? entity <;> rfl

end Guard

open History

/-- The engine holds what its history tells. -/
structure Reflects (engine : Engine) (history : History) : Prop where
  orderly : engine.store.Orderly
  switches : engine.liveCode = none ∧ engine.createCode = none
  used : ∀ entity, engine.store.Used entity ↔ entity ∈ history.issued
  distinct : history.issued.Nodup
  alive : ∀ entity, (engine.store.texts? entity).isSome ↔ history.Lives entity
  texts : ∀ shelf entity key texts, engine.store.texts? entity = some texts →
    findText key (shelf.table texts) = history.current shelf entity key
  failing : ∀ key, engine.failing.contains key ↔ history.Failing key

/-- A new engine reflects the empty history. -/
theorem create_reflects (interval : Float32) : Reflects (Engine.create interval) [] where
  orderly := EntityStore.empty_orderly
  switches := ⟨rfl, rfl⟩
  used entity := ⟨fun used => absurd used (EntityStore.not_used_empty entity), nofun⟩
  distinct := List.nodup_nil
  alive _ := ⟨nofun, fun lives => absurd lives not_inForce_nil⟩
  texts _ _ _ _ found := nomatch found
  failing _ := ⟨nofun, fun fails => absurd fails not_inForce_nil⟩

/-- The newest exchange decides on a text if it writes one. -/
theorem current_cons (shelf : Shelf) (entity : Entity) (key : String) (exchange : Exchange) (history : History) :
    current shelf entity key (exchange :: history) =
      match written shelf entity key exchange with
      | some text => text
      | none => history.current shelf entity key := by
  unfold current
  rw [List.findSome?_cons]
  cases written shelf entity key exchange <;> rfl

/-- An exchange that is about texts neither makes nor destroys entities, and it chooses no failing keys. -/
structure Textual (exchange : Exchange) : Prop where
  silent : issues exchange = none
  harmless : ∀ entity, exchange ≠ (.destroy entity, .done)
  lenient : ∀ key, exchange ≠ (.failKey key, .done)
  strict : exchange ≠ (.clearFailures, .done)

/-- Writing data concerns texts alone. -/
theorem setData_textual (entity : Entity) (key value : String) : Textual (.setData entity key value, .done) :=
  ⟨rfl, fun _ => nofun, fun _ => nofun, nofun⟩

/-- Removing data concerns texts alone. -/
theorem removeData_textual (entity : Entity) (key : String) : Textual (.removeData entity key, .done) :=
  ⟨rfl, fun _ => nofun, fun _ => nofun, nofun⟩

/-- Writing a component concerns texts alone. -/
theorem setComponent_textual (entity : Entity) (key text : String) :
    Textual (.setComponent entity key text, .done) :=
  ⟨rfl, fun _ => nofun, fun _ => nofun, nofun⟩

section Cons

variable {history : History} {exchange : Exchange}

/-- An exchange without a new entity issues none. -/
theorem issued_cons_none (silent : issues exchange = none) : issued (exchange :: history) = history.issued :=
  List.filterMap_cons_none silent

/-- A harmless exchange leaves the living as they are. -/
theorem lives_cons (silent : issues exchange = none) (harmless : ∀ entity, exchange ≠ (.destroy entity, .done))
    (entity : Entity) : Lives entity (exchange :: history) ↔ Lives entity history := by
  rw [Lives, inForce_cons, silent]
  simp only [reduceCtorEq, harmless entity, not_false_eq_true, true_and, false_or]

/-- An exchange about no key leaves the failing keys as they are. -/
theorem failing_cons (lenient : ∀ key, exchange ≠ (.failKey key, .done)) (strict : exchange ≠ (.clearFailures, .done))
    (key : String) : Failing key (exchange :: history) ↔ Failing key history := by
  rw [Failing, inForce_cons]
  simp only [lenient key, strict, not_false_eq_true, true_and, false_or]

end Cons

namespace Reflects

variable {engine : Engine} {history : History} (reflects : Reflects engine history)

include reflects

/-- A reply that tells a text or a failure goes with an engine that is left alone. -/
theorem quiet (call : Call) {reply : Reply}
    (told : (∃ error, reply = .failed error) ∨ ∃ text, reply = .text text) :
    Reflects engine ((call, reply) :: history) := by
  have textual : Textual (call, reply) := by
    rcases told with ⟨error, rfl⟩ | ⟨text, rfl⟩ <;> exact ⟨rfl, fun _ => nofun, fun _ => nofun, nofun⟩
  have unread (shelf : Shelf) (entity : Entity) (key : String) : written shelf entity key (call, reply) = none := by
    rcases told with ⟨error, rfl⟩ | ⟨text, rfl⟩ <;> cases call <;> rfl
  refine ⟨reflects.orderly, reflects.switches, fun entity => ?_, ?_, fun entity => ?_,
    fun shelf entity key texts found => ?_, fun key => ?_⟩
  · rw [reflects.used, issued_cons_none textual.silent]
  · rw [issued_cons_none textual.silent]
    exact reflects.distinct
  · rw [reflects.alive, lives_cons textual.silent textual.harmless]
  · rw [reflects.texts shelf entity key texts found, current_cons, unread]
  · rw [reflects.failing, failing_cons textual.lenient textual.strict]

/-- A call that changes the texts of a living entity says so in the history. -/
theorem edit {call : Call} {entity : Entity} {texts later : Texts} (alive : engine.store.texts? entity = some texts)
    (textual : Textual (call, .done))
    (touches : ∀ shelf key, findText key (shelf.table later) =
      match written shelf entity key (call, .done) with
      | some text => text
      | none => findText key (shelf.table texts))
    (spares : ∀ shelf other key, other ≠ entity → written shelf other key (call, .done) = none) :
    Reflects { engine with store := engine.store.setTexts entity later } ((call, .done) :: history) where
  orderly := EntityStore.setTexts_orderly alive later reflects.orderly
  switches := reflects.switches
  used other := by
    rw [EntityStore.setTexts_used alive, reflects.used, issued_cons_none textual.silent]
  distinct := by
    rw [issued_cons_none textual.silent]
    exact reflects.distinct
  alive other := by
    rw [lives_cons textual.silent textual.harmless, ← reflects.alive, EntityStore.setTexts_texts? alive]
    by_cases same : other = entity
    · rw [if_pos same, same, alive]
      rfl
    · rw [if_neg same]
  texts shelf other key found held := by
    rw [EntityStore.setTexts_texts? alive] at held
    rw [current_cons]
    by_cases same : other = entity
    · subst same
      rw [if_pos rfl] at held
      cases held
      rw [touches, reflects.texts shelf _ key texts alive]
    · rw [if_neg same] at held
      rw [spares shelf other key same]
      exact reflects.texts shelf other key found held
  failing key := by
    rw [failing_cons textual.lenient textual.strict]
    exact reflects.failing key

/-- An engine that spawned an entity reflects the exchange that tells of it. -/
theorem spawned {call : Call} {entity : Entity} {data : List (String × String)} {store : EntityStore}
    (new : engine.store.Spawned store entity data)
    (fills : ∀ shelf other key, written shelf other key (call, .entity entity) =
      if entity = other then some (if shelf = .data then findText key data else none) else none) :
    Reflects { engine with store } ((call, .entity entity) :: history) where
  orderly := new.orderly
  switches := reflects.switches
  used other := by
    rw [new.used, reflects.used]
    exact List.mem_cons.symm
  distinct := by
    refine List.nodup_cons.mpr ⟨fun among => ?_, reflects.distinct⟩
    exact new.fresh ((reflects.used entity).mpr among)
  alive other := by
    rw [new.texts, Lives, inForce_cons]
    by_cases same : other = entity
    · subst same
      rw [if_pos rfl]
      exact ⟨fun _ => .inl rfl, fun _ => rfl⟩
    · rw [if_neg same, reflects.alive]
      simp only [issues, Option.some.injEq, Ne.symm same, Prod.mk.injEq, reduceCtorEq, and_false, not_false_eq_true,
        true_and, false_or, Lives]
  texts shelf other key texts held := by
    rw [new.texts] at held
    rw [current_cons, fills]
    by_cases same : other = entity
    · subst same
      rw [if_pos rfl] at held
      cases held
      rw [if_pos rfl]
      cases shelf <;> rfl
    · rw [if_neg same] at held
      rw [if_neg (Ne.symm same)]
      exact reflects.texts shelf other key texts held
  failing key := by
    refine (reflects.failing key).trans (Iff.symm (failing_cons ?_ ?_ key))
    · exact fun _ => nofun
    · exact nofun

/-- An engine that destroyed an entity reflects the exchange that tells of it. -/
theorem destroyed {entity : Entity} {texts : Texts} (alive : engine.store.texts? entity = some texts) :
    Reflects { engine with store := engine.store.destroy entity } ((.destroy entity, .done) :: history) where
  orderly := EntityStore.destroy_orderly alive reflects.orderly
  switches := reflects.switches
  used other := by
    rw [EntityStore.destroy_used alive, reflects.used]
    rfl
  distinct := reflects.distinct
  alive other := by
    rw [EntityStore.destroy_texts? alive, Lives, inForce_cons]
    by_cases same : other = entity
    · subst same
      rw [if_pos rfl]
      exact ⟨nofun, fun lives => (lives.resolve_left nofun).1.elim rfl⟩
    · rw [if_neg same, reflects.alive]
      simp only [issues, reduceCtorEq, Prod.mk.injEq, Call.destroy.injEq, Ne.symm same, false_and, not_false_eq_true,
        true_and, false_or, Lives]
  texts shelf other key found held := by
    rw [EntityStore.destroy_texts? alive] at held
    rw [current_cons]
    by_cases same : other = entity
    · rw [if_pos same] at held
      exact nomatch held
    · rw [if_neg same] at held
      exact reflects.texts shelf other key found held
  failing key := by
    refine (reflects.failing key).trans (Iff.symm (failing_cons ?_ ?_ key))
    · exact fun _ => nofun
    · exact nofun

/-- The choice of failing keys is no business of the store. -/
theorem chosen {call : Call} {failing : List String} (silent : issues (call, .done) = none)
    (harmless : ∀ entity, (call, Reply.done) ≠ (.destroy entity, .done))
    (unread : ∀ shelf entity key, written shelf entity key (call, .done) = none)
    (fails : ∀ key, failing.contains key ↔ Failing key ((call, .done) :: history)) :
    Reflects { engine with failing } ((call, .done) :: history) where
  orderly := reflects.orderly
  switches := reflects.switches
  used entity := by rw [reflects.used, issued_cons_none silent]
  distinct := by
    rw [issued_cons_none silent]
    exact reflects.distinct
  alive entity := by rw [reflects.alive, lives_cons silent harmless]
  texts shelf entity key texts found := by rw [reflects.texts shelf entity key texts found, current_cons, unread]
  failing := fails

/-- An engine with another failing key reflects the exchange that named it. -/
theorem failed (key : String) :
    Reflects { engine with failing := key :: engine.failing } ((.failKey key, .done) :: history) := by
  refine reflects.chosen rfl (fun _ => nofun) (fun _ _ _ => rfl) fun other => ?_
  rw [Failing, inForce_cons, List.contains_cons, Bool.or_eq_true, reflects.failing, beq_iff_eq]
  simp only [Prod.mk.injEq, Call.failKey.injEq, and_true, reduceCtorEq, not_false_eq_true, true_and, Failing]
  exact or_congr_left eq_comm

/-- An engine without failing keys reflects the exchange that cleared them. -/
theorem cleared : Reflects { engine with failing := [] } ((.clearFailures, .done) :: history) := by
  refine reflects.chosen rfl (fun _ => nofun) (fun _ _ _ => rfl) fun other => ?_
  rw [Failing, inForce_cons]
  exact ⟨nofun, fun fails => (fails.resolve_left nofun).1.elim rfl⟩

/-- What the engine does not find is not alive by the history. -/
theorem dead {entity : Entity} (missing : engine.store.texts? entity = none) : ¬ history.Lives entity := by
  rw [← reflects.alive entity, missing]
  exact Bool.false_ne_true

/-- What the engine finds is alive by the history. -/
theorem lives {entity : Entity} {texts : Texts} (found : engine.store.texts? entity = some texts) :
    history.Lives entity := by
  rw [← reflects.alive entity, found]
  rfl

/-- The engine rejects a call for the same reason as its history. -/
theorem guard_eq (call : String) (entity : Entity) (key : String) (readable : Bool)
    {good : Texts → Engine × Reply} {reply : Reply}
    (same : ∀ texts, engine.store.texts? entity = some texts → (good texts).2 = reply) :
    (engine.guard call entity key readable good).2 = history.guarded call entity key readable reply := by
  unfold guard guarded
  by_cases fails : engine.failing.contains key
  · rw [if_pos fails, if_pos ((reflects.failing key).mp fails)]
  rw [if_neg fails, if_neg (mt (reflects.failing key).mpr fails)]
  by_cases unreadable : readable = false
  · rw [if_pos unreadable, if_pos unreadable]
  rw [if_neg unreadable, if_neg unreadable]
  rcases found : engine.store.texts? entity with - | texts
  · rw [if_neg (reflects.dead found)]
  · rw [if_pos (reflects.lives found)]
    exact same texts found

end Reflects

section Step

variable {engine : Engine} {history : History}

/-- A guarded call is reflected if its good case is. -/
theorem guard_reflects (reflects : Reflects engine history) (request : Call) (call : String) (entity : Entity)
    (key : String) (readable : Bool) {good : Texts → Engine × Reply}
    (kept : ∀ texts, engine.store.texts? entity = some texts →
      Reflects (good texts).1 ((request, (good texts).2) :: history)) :
    Reflects (engine.guard call entity key readable good).1
      ((request, (engine.guard call entity key readable good).2) :: history) := by
  rcases engine.guard_cases entity key call readable good with ⟨error, failed⟩ | ⟨texts, found, went⟩
  · rw [failed]
    exact reflects.quiet request (.inl ⟨error, rfl⟩)
  · rw [went]
    exact kept texts found

/-- Every answer is reflected, as long as generations have room. -/
theorem step_reflects (reflects : Reflects engine history) (call : Call)
    (bounded : (engine.answer call).1.store.Bounded) :
    Reflects (engine.answer call).1 ((call, (engine.answer call).2) :: history) := by
  -- Getters are quiet, and every other call changes one entity, one text or one switch.
  cases call with
  | spawn data =>
      have new := EntityStore.spawn_spawned reflects.orderly bounded
      refine reflects.spawned new fun shelf other key => ?_
      simp only [written, findText_sortMembers]
  | create =>
      obtain ⟨-, noCode⟩ := reflects.switches
      rw [answer_create engine noCode] at bounded ⊢
      have new := EntityStore.spawn_spawned reflects.orderly bounded
      refine reflects.spawned new fun shelf other key => ?_
      simp only [written, findText, List.find?_nil, Option.map_none, ite_self]
  | destroy entity =>
      rw [answer_destroy]
      rcases alive : engine.store.texts? entity with - | texts
      · exact reflects.quiet _ (.inl ⟨_, rfl⟩)
      · exact reflects.destroyed alive
  | setData entity key value =>
      rw [answer_setData]
      refine guard_reflects reflects _ _ _ _ _ fun texts alive =>
        reflects.edit alive (setData_textual entity key value) (fun shelf other => ?_)
          fun shelf other name away => ?_
      · cases shelf with
        | data =>
            simp only [Shelf.table, written, findText_put, true_and]
            split <;> rfl
        | components => rfl
      · exact if_neg fun both => away both.2.1.symm
  | getData entity key =>
      rw [answer_getData]
      exact guard_reflects reflects _ _ _ _ _ fun texts alive => reflects.quiet _ (.inr ⟨_, rfl⟩)
  | removeData entity key =>
      rw [answer_removeData]
      refine guard_reflects reflects _ _ _ _ _ fun texts alive =>
        reflects.edit alive (removeData_textual entity key) (fun shelf other => ?_)
          fun shelf other name away => ?_
      · cases shelf with
        | data =>
            simp only [Shelf.table, written, findText_removeText, true_and]
            split <;> rfl
        | components => rfl
      · exact if_neg fun both => away both.2.1.symm
  | setComponent entity key text =>
      rw [answer_setComponent]
      refine guard_reflects reflects _ _ _ _ _ fun texts alive =>
        reflects.edit alive (setComponent_textual entity key text) (fun shelf other => ?_)
          fun shelf other name away => ?_
      · cases shelf with
        | data => rfl
        | components =>
            simp only [Shelf.table, written, findText_put, true_and]
            split <;> rfl
      · exact if_neg fun both => away both.2.1.symm
  | getComponent entity key =>
      rw [answer_getComponent]
      exact guard_reflects reflects _ _ _ _ _ fun texts alive => reflects.quiet _ (.inr ⟨_, rfl⟩)
  | failKey key => exact reflects.failed key
  | clearFailures => exact reflects.cleared

/-- Every answer is allowed by the history, as long as generations have room. -/
theorem step_allowed (reflects : Reflects engine history) (call : Call)
    (bounded : (engine.answer call).1.store.Bounded) : Allows history call (engine.answer call).2 := by
  cases call with
  | spawn data =>
      have new := EntityStore.spawn_spawned reflects.orderly bounded
      exact ⟨_, rfl, fun among => new.fresh ((reflects.used _).mpr among)⟩
  | create =>
      obtain ⟨-, noCode⟩ := reflects.switches
      rw [answer_create engine noCode] at bounded ⊢
      have new := EntityStore.spawn_spawned reflects.orderly bounded
      exact ⟨_, rfl, fun among => new.fresh ((reflects.used _).mpr among)⟩
  | destroy entity =>
      rw [answer_destroy, Allows]
      rcases found : engine.store.texts? entity with - | texts
      · rw [if_neg (reflects.dead found)]
      · rw [if_pos (reflects.lives found)]
        rfl
  | setData entity key value =>
      rw [answer_setData]
      exact reflects.guard_eq _ _ _ _ fun _ _ => rfl
  | getData entity key =>
      rw [answer_getData]
      exact reflects.guard_eq _ _ _ _ fun texts alive => congrArg Reply.text (reflects.texts .data _ _ texts alive)
  | removeData entity key =>
      rw [answer_removeData]
      exact reflects.guard_eq _ _ _ _ fun _ _ => rfl
  | setComponent entity key text =>
      rw [answer_setComponent]
      exact reflects.guard_eq _ _ _ _ fun _ _ => rfl
  | getComponent entity key =>
      rw [answer_getComponent]
      exact reflects.guard_eq _ _ _ _ fun texts alive =>
        congrArg Reply.text (reflects.texts .components _ _ texts alive)
  | failKey key => rfl
  | clearFailures => rfl

end Step

section Play

/-- The store only grows by a call. -/
theorem answer_grows (engine : Engine) (call : Call) :
    engine.store.Grows (engine.answer call).1.store := by
  have edit {entity : Entity} {texts : Texts} (alive : engine.store.texts? entity = some texts) (later : Texts) :
      engine.store.Grows (engine.withStore (engine.store.setTexts entity later)).1.store :=
    EntityStore.setTexts_grows alive later
  have guarded {request : String} {entity : Entity} {key : String} {readable : Bool} {good : Texts → Engine × Reply}
      (grows : ∀ texts, engine.store.texts? entity = some texts → engine.store.Grows (good texts).1.store) :
      engine.store.Grows (engine.guard request entity key readable good).1.store := by
    rcases engine.guard_cases entity key request readable good with ⟨error, failed⟩ | ⟨texts, found, went⟩
    · rw [failed]
      exact .refl _
    · rw [went]
      exact grows texts found
  cases call with
  | spawn data => exact EntityStore.spawn_grows _ _
  | create =>
      unfold answer createEntity
      cases engine.createCode with
      | some code => exact .refl _
      | none => exact EntityStore.spawn_grows _ _
  | destroy entity =>
      rw [answer_destroy]
      rcases alive : engine.store.texts? entity with - | texts
      · exact .refl _
      · exact EntityStore.destroy_grows alive
  | setData entity key value =>
      rw [answer_setData]
      exact guarded fun texts alive => edit alive _
  | removeData entity key =>
      rw [answer_removeData]
      exact guarded fun texts alive => edit alive _
  | setComponent entity key text =>
      rw [answer_setComponent]
      exact guarded fun texts alive => edit alive _
  | getData entity key => exact .refl _
  | getComponent entity key => exact .refl _
  | failKey key => exact .refl _
  | clearFailures => exact .refl _

/-- Whoever is told of an error finds everything as it was. -/
theorem answer_failed (engine : Engine) (call : Call) (error : NativeError)
    (failed : (engine.answer call).2 = .failed error) : (engine.answer call).1 = engine := by
  have guarded {request : String} {entity : Entity} {key : String} {readable : Bool} {good : Texts → Engine × Reply}
      (fine : ∀ texts, (good texts).2 ≠ .failed error)
      (failed : (engine.guard request entity key readable good).2 = .failed error) :
      (engine.guard request entity key readable good).1 = engine := by
    rcases engine.guard_cases entity key request readable good with ⟨other, missed⟩ | ⟨texts, -, went⟩
    · rw [missed]
    · rw [went] at failed
      exact absurd failed (fine texts)
  cases call with
  | spawn data => exact nomatch failed
  | create =>
      unfold answer createEntity at failed ⊢
      cases code : engine.createCode with
      | some number => rfl
      | none =>
          rw [code] at failed
          exact nomatch failed
  | destroy entity =>
      rw [answer_destroy] at failed ⊢
      rcases alive : engine.store.texts? entity with - | texts
      · rfl
      · rw [alive] at failed
        exact nomatch failed
  | setData entity key value =>
      rw [answer_setData] at failed ⊢
      exact guarded (fun _ => nofun) failed
  | removeData entity key =>
      rw [answer_removeData] at failed ⊢
      exact guarded (fun _ => nofun) failed
  | setComponent entity key text =>
      rw [answer_setComponent] at failed ⊢
      exact guarded (fun _ => nofun) failed
  | getData entity key => rfl
  | getComponent entity key => rfl
  | failKey key => exact nomatch failed
  | clearFailures => exact nomatch failed

variable {engine : Engine} {history : History}

/-- The store only grows by calls. -/
theorem play_grows (calls : List Call) : engine.store.Grows (engine.play history calls).1.store := by
  induction calls generalizing engine history with
  | nil => exact .refl _
  | cons call rest ih => exact (answer_grows engine call).trans ih

/-- Places that suffice at the end sufficed all along. -/
theorem play_reflects (reflects : Reflects engine history) (honest : history.Honest) (calls : List Call)
    (bounded : (engine.play history calls).1.store.Bounded) :
    Reflects (engine.play history calls).1 (engine.play history calls).2 ∧
      (engine.play history calls).2.Honest := by
  induction calls generalizing engine history with
  | nil => exact ⟨reflects, honest⟩
  | cons call rest ih =>
      have room : (engine.answer call).1.store.Bounded := bounded.of_grows (play_grows rest)
      exact ih (step_reflects reflects call room) (honest_cons (step_allowed reflects call room) honest) bounded

/-- The engine answers every call as its history allows, and what it holds is what the history tells. -/
theorem engine_refines_history (interval : Float32) (calls : List Call)
    (bounded : ((Engine.create interval).play [] calls).1.store.Bounded) :
    let engine := ((Engine.create interval).play [] calls).1
    let history := ((Engine.create interval).play [] calls).2
    history.Honest ∧ history.issued.Nodup ∧ (∀ entity, engine.isAlive entity ↔ history.Lives entity) ∧
      (∃ ids : List Entity, ids.Pairwise (fun left right => left.bits < right.bits) ∧
        (∀ entity, entity ∈ ids ↔ history.Lives entity) ∧ engine.store.count = ids.length ∧
        ∀ cap, engine.liveEntities cap = .ok (ids.take cap)) ∧
      ∀ call error, (engine.answer call).2 = .failed error → (engine.answer call).1 = engine := by
  obtain ⟨reflects, honest⟩ := play_reflects (create_reflects interval) honest_nil calls bounded
  obtain ⟨ids, ascending, members, counted, cut⟩ := EntityStore.live_ascends bounded
  obtain ⟨noCode, -⟩ := reflects.switches
  refine ⟨honest, reflects.distinct, reflects.alive, ⟨ids, ascending, fun entity => ?_, counted, fun cap => ?_⟩,
    answer_failed _⟩
  · exact (members entity).trans (reflects.alive entity)
  · rw [liveEntities, noCode, cut]

/-- A place is given up and taken again. -/
def successionCalls : List Call :=
  [.spawn [("mood", "grumpy")], .create, .destroy ⟨0x100000000⟩, .spawn [], .setData ⟨0x200000000⟩ "mood" "glad"]

/-- The place of a destroyed entity is reused under another handle. -/
theorem engine_refines_history_succession :
    let engine := ((Engine.create 0).play [] successionCalls).1
    let history := ((Engine.create 0).play [] successionCalls).2
    engine.store.Bounded ∧ history.issued = [⟨0x200000000⟩, ⟨0x100000001⟩, ⟨0x100000000⟩] ∧
      history.Lives ⟨0x200000000⟩ ∧ ¬ history.Lives ⟨0x100000000⟩ := by
  intro engine history
  have bounded : engine.store.Bounded := ⟨by decide +kernel, by decide +kernel⟩
  obtain ⟨-, -, alive, -⟩ := engine_refines_history 0 successionCalls bounded
  refine ⟨bounded, by decide +kernel, (alive _).mp (by decide +kernel), mt (alive _).mpr (by decide +kernel)⟩

end Play

end ScriptHost.Engine

namespace ScriptHost.Session

open Engine (Call Reply)

/-- A session gives these calls to the engine. -/
def callOperation : Call → Operation
  | .spawn data => .spawn none data
  | .create => .create none
  | .destroy entity => .destroy (.number entity)
  | .setData entity key value => .setData (.number entity) key value
  | .getData entity key => .getData (.number entity) key
  | .removeData entity key => .removeData (.number entity) key
  | .setComponent entity key text => .setComponent (.number entity) key text
  | .getComponent entity key => .getComponent (.number entity) key
  | .failKey key => .failKey key
  | .clearFailures => .clearFailures

def replyAnswer (call : Call) : Reply → Answer
  | .entity entity => .entity entity
  | .text value => .possibleText value
  | .failed error => .problem (.native error)
  | .done =>
      match call with
      | .failKey _ | .clearFailures => .nothing
      | _ => .truth true

/-- Calls that only tell how they went are put to the engine in the same way. -/
theorem change_run (act : Engine → Engine × Except NativeError Unit) (world : World) :
    (Perform.change act).run.run world =
      (.ok (match (act world.engine).2 with
        | .ok () => .truth true
        | .error error => .problem (.native error)), { world with engine := (act world.engine).1 }) := by
  unfold Perform.change
  rw [Stateful.run_get]
  rcases act world.engine with ⟨engine, error | value⟩ <;> rfl

/-- Looking at the engine of a world leaves the world as it is. -/
theorem look_run {α : Type} (shape : α → Answer) (act : Engine → Except NativeError α) (world : World) :
    (Perform.look shape act).run.run world =
      (.ok (match act world.engine with
        | .ok value => shape value
        | .error error => .problem (.native error)), world) := by
  unfold Perform.look
  rw [Stateful.run_get]
  rcases act world.engine with error | value <;> rfl

/-- A session hands its calls to the engine and shows its replies. -/
theorem engineOperation_run (call : Call) (world : World) (calm : world.engine.panicKey = none) :
    (Perform.engineOperation (callOperation call)).run.run world =
      (.ok (replyAnswer call (world.engine.answer call).2), { world with engine := (world.engine.answer call).1 }) := by
  cases call with
  | spawn data => rfl
  | create =>
      change (Perform.create none).run.run world = _
      unfold Perform.create
      rw [Stateful.run_get]
      simp only [Engine.answer]
      rcases world.engine.createEntity with ⟨engine, error | entity⟩ <;> rfl
  | destroy entity =>
      refine (change_run (fun engine => engine.destroyEntity entity) world).trans ?_
      simp only [Engine.answer]
      rcases world.engine.destroyEntity entity with ⟨engine, error | value⟩ <;> rfl
  | setData entity key value =>
      refine (change_run (fun engine => engine.setScriptData entity key value) world).trans ?_
      simp only [Engine.answer]
      rcases world.engine.setScriptData entity key value with ⟨engine, error | value⟩ <;> rfl
  | getData entity key =>
      change (Perform.getData key entity).run.run world = _
      unfold Perform.getData
      rw [Stateful.run_get]
      simp only [Engine.panicsOn, calm, reduceCtorEq, if_false]
      refine (look_run .possibleText (fun engine => engine.scriptData entity key) world).trans ?_
      simp only [Engine.answer]
      rcases world.engine.scriptData entity key with error | value <;> rfl
  | removeData entity key =>
      refine (change_run (fun engine => engine.removeScriptData entity key) world).trans ?_
      simp only [Engine.answer]
      rcases world.engine.removeScriptData entity key with ⟨engine, error | value⟩ <;> rfl
  | setComponent entity key text =>
      refine (change_run (fun engine => engine.setComponent entity key text) world).trans ?_
      simp only [Engine.answer]
      rcases world.engine.setComponent entity key text with ⟨engine, error | value⟩ <;> rfl
  | getComponent entity key =>
      refine (look_run .possibleText (fun engine => engine.component entity key) world).trans ?_
      simp only [Engine.answer]
      rcases world.engine.component entity key with error | value <;> rfl
  | failKey key => rfl
  | clearFailures => rfl

end ScriptHost.Session
