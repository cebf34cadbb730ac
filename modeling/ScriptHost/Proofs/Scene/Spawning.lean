/-
This file shows that the scripts which an actor of a scene lists are the ones that its entity declares.
-/
import ScriptHost.Proofs.Binding.Declaring
import ScriptHost.Proofs.Engine.Keeping
import ScriptHost.Proofs.Json.Values
import ScriptHost.Proofs.Scene.Lengths

namespace ScriptHost

namespace Engine

variable {engine : Engine}

/-- Storing something does not make an engine panic. -/
theorem Stores.panicKey {after : Engine} (stores : engine.Stores after) : after.panicKey = engine.panicKey := by
  obtain ⟨store, rfl⟩ := stores
  rfl

/-- No answer makes an engine panic. -/
theorem answer_panicKey (call : Call) : (engine.answer call).1.panicKey = engine.panicKey := by
  cases call with
  | spawn data => rfl
  | create => exact createEntity_stores.panicKey
  | destroy entity => exact destroyEntity_stores.panicKey
  | setData entity key value => exact (setScriptData_stores key value).panicKey
  | getData entity key => rfl
  | removeData entity key => exact (removeScriptData_stores key).panicKey
  | setComponent entity key text => exact (setComponent_stores key text).panicKey
  | getComponent entity key => rfl
  | failKey key => rfl
  | clearFailures => rfl

/-- No calls make an engine panic. -/
theorem play_panicKey (history : History) (calls : List Call) :
    (engine.play history calls).1.panicKey = engine.panicKey := by
  induction calls generalizing engine history with
  | nil => rfl
  | cons call rest ih => exact (ih _).trans (answer_panicKey call)

end Engine

namespace Scene.Actor

open Session (World)
open Session.Binding (declared declaration declaration_alive declared_tells legible)

variable {engine after : Engine} {entity : Entity} {texts : Texts}

/-- The first text is written, and then the others are. -/
theorem writeTexts_cons (alive : engine.store.texts? entity = some texts) (key value : String)
    (rest : List (String × String)) (fine : key ∉ engine.failing) :
    writeTexts entity ((key, value) :: rest) engine =
      writeTexts entity rest { engine with
        store := engine.store.setTexts entity { texts with data := Json.put key value texts.data } } := by
  have listed : ¬ engine.failing.contains key = true := fun listed => fine (List.contains_iff_mem.mp listed)
  rw [writeTexts, Engine.setScriptData_eq alive, if_neg listed]

/-- The texts go into the table one after another. -/
def enter (entries table : List (String × String)) : List (String × String) :=
  entries.foldl (fun table entry => Json.put entry.1 entry.2 table) table

/-- A living entity lives on with its new texts. -/
theorem alive_setTexts (alive : engine.store.texts? entity = some texts) (later : Texts) :
    (engine.store.setTexts entity later).texts? entity = some later := by
  rw [EntityStore.setTexts_texts? alive, if_pos rfl]

/-- If the texts were written, they stand in the order of their keys. -/
theorem writeTexts_ok (alive : engine.store.texts? entity = some texts) {entries : List (String × String)}
    (wrote : writeTexts entity entries engine = .ok after) :
    after.store.texts? entity = some { texts with data := enter entries texts.data } ∧
      ∀ entry ∈ entries, entry.1 ∉ engine.failing := by
  induction entries generalizing engine texts with
  | nil =>
      obtain rfl := Except.ok.inj wrote
      exact ⟨alive, nofun⟩
  | cons entry rest ih =>
      obtain ⟨key, value⟩ := entry
      by_cases fine : key ∈ engine.failing
      · rw [writeTexts, Engine.setScriptData_eq alive, if_pos (List.contains_iff_mem.mpr fine)] at wrote
        exact nomatch wrote
      · rw [writeTexts_cons alive key value rest fine] at wrote
        obtain ⟨entered, others⟩ := ih (alive_setTexts alive _) wrote
        exact ⟨entered, List.forall_mem_cons.mpr ⟨fine, others⟩⟩

/-- Texts can be written unless one of their keys fails. -/
theorem writeTexts_done (alive : engine.store.texts? entity = some texts) {entries : List (String × String)}
    (fine : ∀ entry ∈ entries, entry.1 ∉ engine.failing) : ∃ after, writeTexts entity entries engine = .ok after := by
  induction entries generalizing engine texts with
  | nil => exact ⟨engine, rfl⟩
  | cons entry rest ih =>
      obtain ⟨key, value⟩ := entry
      obtain ⟨first, others⟩ := List.forall_mem_cons.mp fine
      rw [writeTexts_cons alive key value rest first]
      exact ih (alive_setTexts alive _) others

/-- The engine takes every text and every component of the actor. -/
structure Accepted (actor : Actor) (engine : Engine) : Prop where
  texts : ∀ entry ∈ actor.texts, entry.1 ∉ engine.failing
  components : ∀ entry ∈ actor.components, entry.1 ∉ engine.failing ∧ (Json.Value.read? entry.2.write).isSome

/-- The first component is written, and then the others are. -/
theorem writeComponents_cons (alive : engine.store.texts? entity = some texts) (key : String) (value : Json.Value)
    (rest : List (String × Json.Value)) (fine : key ∉ engine.failing)
    (readable : (Json.Value.read? value.write).isSome) :
    writeComponents entity ((key, value) :: rest) engine =
      writeComponents entity rest { engine with
        store := engine.store.setTexts entity
          { texts with components := Json.put key value.write texts.components } } := by
  have listed : ¬ engine.failing.contains key = true := fun listed => fine (List.contains_iff_mem.mp listed)
  rw [writeComponents, Engine.setComponent_eq alive, if_neg listed, if_pos readable]

/-- If the components were written, no key failed and all of them can be read. -/
theorem writeComponents_ok (alive : engine.store.texts? entity = some texts) {entries : List (String × Json.Value)}
    (wrote : writeComponents entity entries engine = .ok after) :
    (∃ components, after.store.texts? entity = some { texts with components }) ∧
      ∀ entry ∈ entries, entry.1 ∉ engine.failing ∧ (Json.Value.read? entry.2.write).isSome := by
  induction entries generalizing engine texts with
  | nil =>
      obtain rfl := Except.ok.inj wrote
      exact ⟨⟨texts.components, alive⟩, nofun⟩
  | cons entry rest ih =>
      obtain ⟨key, value⟩ := entry
      by_cases fine : key ∈ engine.failing
      · rw [writeComponents, Engine.setComponent_eq alive, if_pos (List.contains_iff_mem.mpr fine)] at wrote
        exact nomatch wrote
      by_cases readable : (Json.Value.read? value.write).isSome
      · rw [writeComponents_cons alive key value rest fine readable] at wrote
        obtain ⟨entered, others⟩ := ih (alive_setTexts alive _) wrote
        exact ⟨entered, List.forall_mem_cons.mpr ⟨⟨fine, readable⟩, others⟩⟩
      · rw [writeComponents, Engine.setComponent_eq alive, if_neg (mt List.contains_iff_mem.mp fine),
          if_neg readable] at wrote
        exact nomatch wrote

/-- Components can be written unless one fails or cannot be read. -/
theorem writeComponents_done (alive : engine.store.texts? entity = some texts) {entries : List (String × Json.Value)}
    (fine : ∀ entry ∈ entries, entry.1 ∉ engine.failing ∧ (Json.Value.read? entry.2.write).isSome) :
    ∃ after, writeComponents entity entries engine = .ok after := by
  induction entries generalizing engine texts with
  | nil => exact ⟨engine, rfl⟩
  | cons entry rest ih =>
      obtain ⟨key, value⟩ := entry
      obtain ⟨first, others⟩ := List.forall_mem_cons.mp fine
      rw [writeComponents_cons alive key value rest first.1 first.2]
      exact ih (alive_setTexts alive _) others

section Spawn

variable {actor : Actor}

/-- A named entity is given its components. -/
theorem spawn_named {middle : Engine}
    (named : writeTexts (engine.spawn []).2 actor.texts (engine.spawn []).1 = .ok middle) :
    actor.spawn engine =
      match writeComponents (engine.spawn []).2 actor.components middle with
      | .ok after => .ok (after, (engine.spawn []).2)
      | .error _ => .error (.spawning actor.name) := by
  unfold spawn
  dsimp only
  rw [named]
  rfl

variable (orderly : engine.store.Orderly) (room : (engine.spawn []).1.store.Bounded)

include orderly room

/-- A new entity has no texts. -/
theorem spawn_bare : (engine.spawn []).1.store.texts? (engine.spawn []).2 = some ⟨[], []⟩ := by
  have new := EntityStore.spawn_spawned orderly room
  exact (new.texts _).trans (if_pos rfl)

/-- An entity holds the texts of its actor, of which later ones have replaced earlier ones of the same key. -/
theorem spawn_ok (spawned : actor.spawn engine = .ok (after, entity)) :
    (∃ components, after.store.texts? entity = some ⟨Json.sortMembers actor.texts, components⟩) ∧
      Accepted actor engine := by
  cases named : writeTexts (engine.spawn []).2 actor.texts (engine.spawn []).1 with
  | error error =>
      unfold spawn at spawned
      dsimp only at spawned
      rw [named] at spawned
      cases spawned
  | ok middle =>
      obtain ⟨alive, texts⟩ := writeTexts_ok (spawn_bare orderly room) named
      obtain ⟨store, rfl⟩ := writeTexts_stores named
      rw [spawn_named named] at spawned
      split at spawned
      · next last equipped =>
          cases spawned
          obtain ⟨held, components⟩ := writeComponents_ok alive equipped
          exact ⟨held, texts, components⟩
      · cases spawned

/-- An actor that the engine accepts is spawned. -/
theorem spawn_done (accepted : Accepted actor engine) : ∃ after entity, actor.spawn engine = .ok (after, entity) := by
  obtain ⟨middle, named⟩ := writeTexts_done (spawn_bare orderly room) accepted.texts
  obtain ⟨alive, -⟩ := writeTexts_ok (spawn_bare orderly room) named
  obtain ⟨store, rfl⟩ := writeTexts_stores named
  obtain ⟨last, equipped⟩ := writeComponents_done alive accepted.components
  refine ⟨last, (engine.spawn []).2, ?_⟩
  rw [spawn_named named, equipped]

end Spawn

section Lists

open Json (Form Value)

/-- A list of texts is written exactly. -/
theorem jsonList_exact (texts : List String) : (jsonList texts).Exact := by
  change Value.ExactItems _
  induction texts with
  | nil => trivial
  | cons text rest ih => exact ⟨trivial, ih⟩

/-- A list of texts is read back. -/
theorem strings?_jsonList (texts : List String) : (jsonList texts).form.strings? = some texts := by
  change (Value.itemForms _).mapM Form.string? = some texts
  induction texts with
  | nil => rfl
  | cons text rest ih =>
      rw [List.map_cons, Value.itemForms, List.mapM_cons, ih]
      rfl

/-- A list of names is read back from its text. -/
theorem listNames?_jsonList (texts : List String) : Bind.listNames? (jsonList texts).write = some texts := by
  rw [Bind.listNames?, Value.read_write (jsonList_exact texts)]
  exact strings?_jsonList texts

/-- A record of names is read back from its text. -/
theorem recordNames?_jsonList (texts : List String) :
    Bind.recordNames? (Value.object [("scripts", jsonList texts)]).write = some texts := by
  have precise : (Value.object [("scripts", jsonList texts)]).Exact :=
    ⟨List.pairwise_singleton _ _, jsonList_exact texts, trivial⟩
  rw [Bind.recordNames?, Value.read_write precise]
  exact strings?_jsonList texts

end Lists

section Keys

variable {entries : List (String × String)} {key value : String}

/-- The last text under a key is found. -/
theorem findText_last : findText key (Json.sortMembers (entries ++ [(key, value)])) = some value := by
  rw [findText_sortMembers, List.reverse_append, List.reverse_singleton, List.singleton_append, findText_cons,
    if_pos rfl]

/-- A text under no such key is not found. -/
theorem findText_missing (missing : ∀ entry ∈ entries, entry.1 ≠ key) :
    findText key (Json.sortMembers entries) = none := by
  rw [findText_sortMembers, findText, Option.map_eq_none_iff, List.find?_eq_none]
  exact fun entry among same => missing entry (List.mem_reverse.mp among) (beq_iff_eq.mp same)

end Keys

variable {actor : Actor}

/-- A record of scripts is written last. -/
theorem texts_record (listed : actor.scripts ≠ []) :
    ∃ earlier, actor.texts =
      earlier ++ [(Bind.recordKey, (Json.Value.object [("scripts", jsonList actor.scripts)]).write)] := by
  rw [texts, if_neg (mt List.isEmpty_iff.mp listed)]
  exact ⟨_, rfl⟩

/-- A list of scripts is written last if there is no record. -/
theorem texts_list (bare : actor.scripts = []) (listed : actor.legacyScripts ≠ []) :
    actor.texts = (("name", actor.name) :: actor.data) ++ [(Bind.listKey, (jsonList actor.legacyScripts).write)] := by
  rw [texts, bare, if_neg (mt List.isEmpty_iff.mp listed)]
  exact List.append_nil _

section Declares

variable {components : List (String × String)} (calm : engine.panicKey = none)
  (alive : engine.store.texts? entity = some ⟨Json.sortMembers actor.texts, components⟩)

/-- The text that was written last under a key can be read unless the key fails. -/
theorem legible_last {earlier : List (String × String)} {key value : String} (fine : key ∉ engine.failing) :
    legible engine ⟨Json.sortMembers (earlier ++ [(key, value)]), components⟩ key = some value := by
  rw [legible, if_neg (mt List.contains_iff_mem.mp fine)]
  exact findText_last

/-- Where no text was written there is none to read. -/
theorem legible_missing {entries : List (String × String)} {key : String}
    (missing : ∀ entry ∈ entries, entry.1 ≠ key) :
    legible engine ⟨Json.sortMembers entries, components⟩ key = none := by
  rw [legible, findText_missing missing, ite_self]

include calm alive

/-- The scripts of an actor are declared by its record. -/
theorem declaration_scripts (listed : actor.scripts ≠ []) (fine : ∀ entry ∈ actor.texts, entry.1 ∉ engine.failing) :
    declaration engine entity = .ok (Bind.tidy actor.scripts) := by
  obtain ⟨earlier, written⟩ := texts_record listed
  rw [written] at alive fine
  have key := fine _ (List.mem_append_right earlier List.mem_cons_self)
  rw [declaration_alive calm alive, legible_last key, Option.bind_some, recordNames?_jsonList]
  rfl

/-- The last text of the actor is its older list, and no text before it is a record. -/
theorem declaration_legacyScripts (bare : actor.scripts = []) (listed : actor.legacyScripts ≠ [])
    (absent : ∀ entry ∈ actor.data, entry.1 ≠ Bind.recordKey)
    (fine : ∀ entry ∈ actor.texts, entry.1 ∉ engine.failing) :
    declaration engine entity = .ok (Bind.tidy actor.legacyScripts) := by
  rw [texts_list bare listed] at alive fine
  have key := fine _ (List.mem_append_right _ List.mem_cons_self)
  have name : "name" ≠ Bind.recordKey := by decide
  have list : Bind.listKey ≠ Bind.recordKey := by decide
  have missing : ∀ entry ∈ ("name", actor.name) :: actor.data ++ [(Bind.listKey, (jsonList actor.legacyScripts).write)],
      entry.1 ≠ Bind.recordKey := by
    rw [List.forall_mem_append, List.forall_mem_cons, List.forall_mem_singleton]
    exact ⟨⟨name, absent⟩, list⟩
  rw [declaration_alive calm alive, legible_missing missing, legible_last key, Option.bind_none, Option.none_or,
    Option.bind_some, listNames?_jsonList]
  rfl

end Declares

/-- The entity declares the scripts that its actor lists. Without any it declares those of the older list, unless the
data of the actor holds a declaration of its own. -/
theorem spawn_declares (interval : Float32) (earlier : List Engine.Call) (actor : Actor)
    (room : (((Engine.create interval).play [] earlier).1.spawn []).1.store.Bounded) :
    let engine := ((Engine.create interval).play [] earlier).1
    ((∃ after entity, actor.spawn engine = .ok (after, entity)) ↔ Accepted actor engine) ∧
      ∀ after entity, actor.spawn engine = .ok (after, entity) → ∀ world : World, world.engine = after →
        ∃ names, ((declared entity).run.run world).1 = .ok names ∧
          (actor.scripts ≠ [] → names = Bind.normal actor.scripts) ∧
          (actor.scripts = [] → actor.legacyScripts ≠ [] → (∀ entry ∈ actor.data, entry.1 ≠ "ScriptComponent") →
            names = Bind.normal actor.legacyScripts) ∧
          Bind.Tidied names ∧ Bind.normal names = names := by
  intro engine
  have bounded : engine.store.Bounded := room.of_grows (EntityStore.spawn_grows _ _)
  obtain ⟨reflects, -⟩ :=
    Engine.play_reflects (Engine.create_reflects interval) Engine.History.honest_nil earlier bounded
  have orderly : engine.store.Orderly := reflects.orderly
  refine ⟨⟨?_, spawn_done orderly room⟩, ?_⟩
  · rintro ⟨after, entity, spawned⟩
    exact (spawn_ok orderly room spawned).2
  rintro after entity spawned world rfl
  obtain ⟨⟨components, alive⟩, fine, -⟩ := spawn_ok orderly room spawned
  -- No call sets the key at which the engine panics, so the declaration is read without a panic.
  have calm : world.engine.panicKey = none :=
    (spawn_stores spawned).panicKey.trans (Engine.play_panicKey [] earlier)
  have failing : world.engine.failing = engine.failing := by
    obtain ⟨store, same⟩ := spawn_stores spawned
    rw [same]
  rw [← failing] at fine
  have declares := declaration_alive calm alive
  have told : Session.Binding.Tells 0 world (declared entity) (declaration world.engine entity) := declared_tells entity
  have answered := told.1
  rw [declares] at answered
  refine ⟨_, answered, fun listed => ?_, fun bare listed absent => ?_, Bind.tidy_tidied _, (Bind.tidy_tidied _).normal⟩
  · rw [← Bind.tidy_eq]
    exact Except.ok.inj (declares.symm.trans (declaration_scripts calm alive listed fine))
  · rw [← Bind.tidy_eq]
    exact Except.ok.inj (declares.symm.trans (declaration_legacyScripts calm alive bare listed absent fine))

/-- Its names have quotes, slashes and white space in them, and its data gets in the way of both lists. -/
def guardActor : Actor where
  name := "Wächter"
  scripts := [" patrol\t", "say \"ha\\lt\"", "", "\u2003", "patrol", "wache\u0001🛡"]
  legacyScripts := ["old"]
  data := [("ScriptComponent", "[]"), ("scripts", "no list"), ("mood", "grim")]
  components := []

/-- Blanks around a name are dropped, an empty name and a repeated one too, and all other characters come back. -/
theorem spawn_declares_guard :
    (((Engine.create 0).play [] []).1.spawn []).1.store.Bounded ∧
      ∃ after entity, guardActor.spawn (Engine.create 0) = .ok (after, entity) ∧
        ∀ world : World, world.engine = after →
          ((declared entity).run.run world).1 = .ok ["patrol", "say \"ha\\lt\"", "wache\u0001🛡"] := by
  have room : (((Engine.create 0).play [] []).1.spawn []).1.store.Bounded := ⟨by decide +kernel, by decide +kernel⟩
  obtain ⟨spawns, declares⟩ := spawn_declares 0 [] guardActor room
  obtain ⟨after, entity, spawned⟩ := spawns.mpr ⟨fun _ _ => List.not_mem_nil, nofun⟩
  refine ⟨room, after, entity, spawned, fun world same => ?_⟩
  obtain ⟨names, answered, listed, -⟩ := declares after entity spawned world same
  have written : Bind.normal guardActor.scripts = ["patrol", "say \"ha\\lt\"", "wache\u0001🛡"] := by
    decide +kernel
  rw [answered, listed (List.cons_ne_nil _ _), written]

end Scene.Actor

end ScriptHost
