/-
This file shows that scripts read nothing outside but the engine and the draws, so that they do the same whatever
stood in the log before, and whatever is drawn where they do not draw. They never touch the switches of the engine.
-/
import ScriptHost.Proofs.Script.Lockstep

namespace ScriptHost

/-- Such an engine lists its entities and panics on no key. -/
structure Engine.Willing (engine : Engine) : Prop where
  lists : engine.liveCode = none
  calm : engine.panicKey = none

namespace Engine

/-- The calls of scripts change nothing but the store. -/
def Stores (engine after : Engine) : Prop :=
  ∃ store, after = { engine with store }

variable {engine after : Engine} {entity : Entity}

/-- Nothing has to be stored. -/
theorem Stores.refl (engine : Engine) : engine.Stores engine := ⟨engine.store, rfl⟩

/-- What is stored twice is stored. -/
theorem Stores.trans {last : Engine} (first : engine.Stores after) (second : after.Stores last) :
    engine.Stores last := by
  obtain ⟨store, rfl⟩ := first
  obtain ⟨store, rfl⟩ := second
  exact ⟨store, rfl⟩

/-- Storing something leaves an engine willing. -/
theorem Willing.stores (willing : engine.Willing) (stores : engine.Stores after) : after.Willing := by
  obtain ⟨store, rfl⟩ := stores
  exact ⟨willing.lists, willing.calm⟩

/-- Changing the texts of an entity stores them. -/
theorem withTexts_stores {change : Texts → Texts} (changed : engine.withTexts entity change = .ok after) :
    engine.Stores after := by
  unfold withTexts at changed
  cases found : engine.resolve entity with
  | error error =>
      rw [found] at changed
      cases changed
  | ok texts =>
      rw [found] at changed
      exact ⟨_, (Except.ok.inj changed).symm⟩

/-- An update stores something or leaves the engine as it is. -/
theorem update_stores {result : Except NativeError Engine}
    (stores : ∀ after, result = .ok after → engine.Stores after) : engine.Stores (engine.update result).1 := by
  cases result with
  | ok changed => exact stores changed rfl
  | error error => exact Stores.refl engine

/-- A check before a call cannot make it change more. -/
theorem checked_stores {Checked : Type} {check : Except NativeError Checked}
    {call : Checked → Except NativeError Engine}
    (stores : ∀ value after, call value = .ok after → engine.Stores after)
    (changed : check >>= call = .ok after) : engine.Stores after := by
  cases check with
  | ok value => exact stores value after changed
  | error error => cases changed

/-- Writing a component changes the store alone. -/
theorem setComponent_stores (key text : String) : engine.Stores (engine.setComponent entity key text).1 :=
  update_stores fun _ => checked_stores fun _ _ => checked_stores fun _ _ => withTexts_stores

/-- Writing data changes the store alone. -/
theorem setScriptData_stores (key value : String) : engine.Stores (engine.setScriptData entity key value).1 :=
  update_stores fun _ => checked_stores fun _ _ => withTexts_stores

/-- Removing data changes the store alone. -/
theorem removeScriptData_stores (key : String) : engine.Stores (engine.removeScriptData entity key).1 :=
  update_stores fun _ => checked_stores fun _ _ => withTexts_stores

/-- Destroying an entity changes the store alone. -/
theorem destroyEntity_stores : engine.Stores (engine.destroyEntity entity).1 := by
  unfold destroyEntity
  split
  · exact Stores.refl engine
  · exact ⟨_, rfl⟩

/-- Creating an entity changes the store alone. -/
theorem createEntity_stores : engine.Stores engine.createEntity.1 := by
  unfold createEntity
  split
  · exact Stores.refl engine
  · exact ⟨_, rfl⟩

end Engine

namespace Script

/-- Related outsides share the engine, and they stay related whatever a builtin writes. They share the draws where
drawing is spared. -/
structure EngineBound (spared : String → Prop) (related : Outside → Outside → Prop) : Prop where
  engine : ∀ {outside other}, related outside other → other.engine = outside.engine
  say : ∀ {outside other}, related outside other → ∀ line, related (outside.say line) (other.say line)
  report : ∀ {outside other}, related outside other → ∀ record, related (outside.report record) (other.report record)
  stores : ∀ {outside other}, related outside other → ∀ {engine}, outside.engine.Stores engine →
    related { outside with engine } { other with engine }
  draws : spared "rand" → ∀ {outside other}, related outside other → other.draws = outside.draws
  drawn : spared "rand" → ∀ {outside other}, related outside other →
    related { outside with draws := outside.draws.rest } { other with draws := outside.draws.rest }

namespace EngineBound

variable {spared : String → Prop} {related : Outside → Outside → Prop} {outside other : Outside}

section Calls

variable (bound : EngineBound spared related) (linked : related outside other)
include bound linked

/-- A warning goes to both outsides. -/
theorem warn (message : String) (fields : List (String × String)) (value : Value) :
    (Reply.answer value (outside.warnNative message fields)).Linked related
      (.answer value (other.warnNative message fields)) :=
  ⟨rfl, bound.report linked _⟩

/-- A call is settled alike if it changed the store alone. -/
theorem settle (call : String) (fields : List (String × String)) {result : Engine × Except NativeError Unit}
    (stores : outside.engine.Stores result.1) : (Interface.settle outside call fields result).Linked related
      (Interface.settle other call fields result) := by
  rcases result with ⟨engine, error | done⟩
  · exact bound.warn linked _ _ _
  · exact ⟨rfl, bound.stores linked stores⟩

/-- The same entities are listed to both outsides. -/
theorem entities : (Interface.entities outside).Linked related (Interface.entities other) := by
  unfold Interface.entities
  rw [bound.engine linked]
  split
  · exact ⟨rfl, linked⟩
  · exact bound.warn linked _ _ _

/-- The same entity is created for both outsides. -/
theorem createEntity : (Interface.createEntity outside).Linked related (Interface.createEntity other) := by
  have stores := outside.engine.createEntity_stores
  unfold Interface.createEntity
  rw [bound.engine linked]
  revert stores
  rcases outside.engine.createEntity with ⟨engine, error | entity⟩
  · exact fun _ => bound.warn linked _ _ _
  · exact fun stores => ⟨rfl, bound.stores linked stores⟩

/-- An entity is alive for both outsides, or for none. -/
theorem isAlive (handle : Int64) :
    (Interface.isAlive handle outside).Linked related (Interface.isAlive handle other) := by
  unfold Interface.isAlive
  rw [bound.engine linked]
  split <;> exact ⟨rfl, linked⟩

/-- An entity is destroyed for both outsides, or for none. -/
theorem destroyEntity (handle : Int64) :
    (Interface.destroyEntity handle outside).Linked related (Interface.destroyEntity handle other) := by
  unfold Interface.destroyEntity
  rw [bound.engine linked]
  split
  · exact ⟨rfl, linked⟩
  · exact bound.settle linked _ _ Engine.destroyEntity_stores

/-- A component is read alike from both outsides. -/
theorem getComponent (handle : Int64) (component : String) :
    (Interface.getComponent handle component outside).Linked related
      (Interface.getComponent handle component other) := by
  unfold Interface.getComponent
  rw [bound.engine linked]
  split
  · exact ⟨rfl, linked⟩
  · dsimp only
    split
    · exact bound.warn linked _ _ _
    · exact ⟨rfl, linked⟩
    · split
      · exact ⟨rfl, linked⟩
      · exact bound.warn linked _ _ _

/-- A component is written alike from both outsides. -/
theorem setComponent (handle : Int64) (component : String) (value : Value) :
    (Interface.setComponent handle component value outside).Linked related
      (Interface.setComponent handle component value other) := by
  unfold Interface.setComponent
  rw [bound.engine linked]
  split
  · exact ⟨rfl, linked⟩
  · dsimp only
    split
    · exact ⟨rfl, bound.report linked _⟩
    · exact bound.settle linked _ _ (Engine.setComponent_stores _ _)

/-- Data are read alike from both outsides. -/
theorem getScriptData (handle : Int64) (key : String) :
    (Interface.getScriptData handle key outside).Linked related
      (Interface.getScriptData handle key other) := by
  unfold Interface.getScriptData
  rw [bound.engine linked]
  split
  · exact ⟨rfl, linked⟩
  · split
    · exact rfl
    · split
      · exact ⟨rfl, linked⟩
      · exact ⟨rfl, linked⟩
      · exact bound.warn linked _ _ _

/-- Data are written alike from both outsides. -/
theorem setScriptData (handle : Int64) (key value : String) :
    (Interface.setScriptData handle key value outside).Linked related
      (Interface.setScriptData handle key value other) := by
  unfold Interface.setScriptData
  rw [bound.engine linked]
  split
  · exact ⟨rfl, linked⟩
  · exact bound.settle linked _ _ (Engine.setScriptData_stores _ _)

/-- Data are removed alike from both outsides. -/
theorem removeScriptData (handle : Int64) (key : String) :
    (Interface.removeScriptData handle key outside).Linked related
      (Interface.removeScriptData handle key other) := by
  unfold Interface.removeScriptData
  rw [bound.engine linked]
  split
  · exact ⟨rfl, linked⟩
  · exact bound.settle linked _ _ (Engine.removeScriptData_stores _)

/-- The same is drawn where drawing is spared. -/
theorem rand (spares : spared "rand") (low high : Float) :
    (Interface.rand low high outside).Linked related (Interface.rand low high other) := by
  unfold Interface.rand
  rw [bound.draws spares linked]
  split
  · cases outside.draws 0 low high with
    | ok value => exact ⟨rfl, bound.drawn spares linked⟩
    | error message => exact rfl
  · exact ⟨rfl, linked⟩

/-- Every call of the interface is answered alike if it is spared. -/
theorem engineCall {name : String} (spares : spared name) (arguments : List Value) :
    (Interface.engineCall name arguments outside).Linked related
      (Interface.engineCall name arguments other) := by
  unfold Interface.engineCall
  split
  · exact bound.entities linked
  · exact bound.createEntity linked
  · exact ⟨rfl, bound.say linked _⟩
  · exact ⟨rfl, bound.say (bound.report linked _) _⟩
  · exact bound.isAlive linked _
  · exact bound.destroyEntity linked _
  · exact bound.getComponent linked _ _
  · exact bound.setComponent linked _ _ _
  · exact bound.getScriptData linked _ _
  · exact bound.setScriptData linked _ _ _
  · exact bound.removeScriptData linked _ _
  · exact bound.rand linked spares _ _
  · trivial

/-- Every builtin is answered alike if it is spared. -/
theorem call {name : String} (spares : spared name) (arguments : List Value) :
    (Interface.call name arguments outside).Linked related (Interface.call name arguments other) := by
  unfold Interface.call
  split
  · exact ⟨rfl, bound.say linked _⟩
  · exact ⟨rfl, bound.say linked _⟩
  · exact ⟨rfl, linked⟩
  · exact ⟨rfl, linked⟩
  · split
    · exact ⟨rfl, linked⟩
    · trivial
  · split
    · exact ⟨rfl, linked⟩
    · trivial
  · exact bound.engineCall linked spares _
  · trivial

end Calls

/-- Of all that is outside, builtins read the engine and the draws alone. -/
theorem blind (bound : EngineBound spared related) : Blind spared related where
  call _ spares arguments _ _ linked := bound.call linked spares arguments
  report record _ _ linked := bound.report linked record

end EngineBound

/-- Only a draw can tell whether there are other draws to come. -/
def Spared (draws : Option Draws) (name : String) : Prop :=
  draws = none ∨ name ≠ "rand"

/-- Where nothing else is drawn every name is spared. -/
theorem spared_none (name : String) : Spared none name := .inl rfl

/-- Drawing is spared only where nothing else is drawn. -/
theorem Spared.same {draws : Option Draws} (spared : Spared draws "rand") : draws = none :=
  spared.resolve_right fun differs => differs rfl

/-- These lines stood in the log already, and there may be other draws to come. -/
def Outside.shifted (past : List String) (draws : Option Draws) (outside : Outside) : Outside :=
  { outside with draws := draws.getD outside.draws, log := past ++ outside.log }

structure Trails (past : List String) (draws : Option Draws) (outside other : Outside) : Prop where
  same : other = outside.shifted past draws
  willing : outside.engine.Willing

/-- Builtins read neither the log nor, unless they draw, the draws. -/
theorem trails_bound (past : List String) (draws : Option Draws) : EngineBound (Spared draws) (Trails past draws) where
  engine trails := by
    rw [trails.same]
    rfl
  say trails line := by
    refine ⟨?_, trails.willing⟩
    rw [trails.same]
    simp [Outside.shifted, Outside.say]
  report trails record := by
    refine ⟨?_, trails.willing⟩
    rw [trails.same]
    rfl
  stores trails _ stores := by
    refine ⟨?_, trails.willing.stores stores⟩
    rw [trails.same]
    rfl
  draws spared _ _ trails := by
    rw [trails.same, Outside.shifted, spared.same]
    rfl
  drawn spared _ _ trails := by
    refine ⟨?_, trails.willing⟩
    rw [trails.same, Outside.shifted, Outside.shifted, spared.same]
    rfl

/-- What stood in the log before cannot be read, and only a draw can tell what is drawn. -/
theorem trails_blind (past : List String) (draws : Option Draws) : Blind (Spared draws) (Trails past draws) :=
  (trails_bound past draws).blind

end Script

end ScriptHost
