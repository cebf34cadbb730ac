/-
This file shows that the components of living entities can always be read, and that a component stays what it is as long
as nobody writes it.
-/
import ScriptHost.Proofs.Engine.Calls

namespace ScriptHost.Engine

section Alive

variable {engine : Engine} {entity : Entity} {texts : Texts}

/-- Data of a living entity are written unless the key fails. -/
theorem setScriptData_eq (alive : engine.store.texts? entity = some texts) (key value : String) :
    engine.setScriptData entity key value =
      if engine.failing.contains key then (engine, .error (.callFailed "set_script_data" entity key (-1)))
      else
        ({ engine with
            store := engine.store.setTexts entity { texts with data := Json.put key value texts.data } }, .ok ()) := by
  simp only [setScriptData, checkKey, withTexts, resolve, alive]
  split <;> rfl

/-- A component of a living entity is written if it can be read and the key does not fail. -/
theorem setComponent_eq (alive : engine.store.texts? entity = some texts) (key text : String) :
    engine.setComponent entity key text =
      if engine.failing.contains key then (engine, .error (.callFailed "set_component_json" entity key (-1)))
      else if (Json.Value.read? text).isSome then
        ({ engine with
            store := engine.store.setTexts entity
              { texts with components := Json.put key text texts.components } }, .ok ())
      else (engine, .error (.callFailed "set_component_json" entity key (-2))) := by
  simp only [setComponent, checkKey, checkJson, withTexts, resolve, alive]
  split
  · rfl
  · split <;> rfl

/-- A component of a living entity is read unless the key fails. -/
theorem component_eq (alive : engine.store.texts? entity = some texts) {key : String} (fine : key ∉ engine.failing) :
    engine.component entity key = .ok (findText key texts.components) := by
  simp only [component, checkKey, resolve, alive, if_neg (mt List.contains_iff_mem.mp fine)]
  rfl

end Alive

/-- The call destroys the entity or writes this component of it. -/
def Call.Touches (entity : Entity) (key : String) (call : Call) : Prop :=
  call = .destroy entity ∨ ∃ text, call = .setComponent entity key text

open History

namespace History

variable {history : History} {entity : Entity} {key : String}

/-- Whoever lives was issued. -/
theorem issued_of_lives (lives : history.Lives entity) : entity ∈ history.issued := by
  obtain ⟨later, start, earlier, rfl, begun, -⟩ := lives
  exact List.mem_filterMap.mpr ⟨start, List.mem_append_right later List.mem_cons_self, begun⟩

/-- A component comes from a write that was accepted, and a new entity has none. -/
theorem written_component {call : Call} {reply : Reply} {found : Option String}
    (wrote : written .components entity key (call, reply) = some found) :
    (((∃ data, call = .spawn data) ∨ call = .create) ∧ reply = .entity entity ∧ found = none) ∨
      ∃ text, call = .setComponent entity key text ∧ reply = .done ∧ found = some text := by
  unfold written at wrote
  split at wrote
  · next data other same =>
      cases same
      split at wrote
      · next mine => exact .inl ⟨.inl ⟨data, rfl⟩, congrArg Reply.entity mine, (Option.some.inj wrote).symm⟩
      · cases wrote
  · next other same =>
      cases same
      split at wrote
      · next mine => exact .inl ⟨.inr rfl, congrArg Reply.entity mine, (Option.some.inj wrote).symm⟩
      · cases wrote
  · rw [if_neg fun both => nomatch both.1] at wrote
    cases wrote
  · rw [if_neg fun both => nomatch both.1] at wrote
    cases wrote
  · next other name text same =>
      cases same
      split at wrote
      · next mine =>
          obtain ⟨-, rfl, rfl⟩ := mine
          exact .inr ⟨text, rfl, rfl, (Option.some.inj wrote).symm⟩
      · cases wrote
  · cases wrote

/-- A component that stands in an honest history can be read. -/
theorem current_readable (honest : history.Honest) {text : String}
    (held : history.current .components entity key = some text) : (Json.Value.read? text).isSome := by
  obtain ⟨⟨call, reply⟩, among, wrote⟩ := List.exists_of_findSome?_eq_some (Option.join_eq_some_iff.mp held)
  obtain ⟨-, -, nothing⟩ | ⟨text, rfl, rfl, same⟩ := written_component wrote
  · cases nothing
  cases same
  obtain ⟨earlier, later, rfl⟩ := List.append_of_mem among
  have allowed : Reply.done = _ := honest earlier _ _ later rfl
  unfold guarded at allowed
  split at allowed
  · cases allowed
  split at allowed
  · cases allowed
  · next readable => exact (Bool.not_eq_false _).mp readable

section Spared

variable {call : Call} {reply : Reply} (spares : ¬ call.Touches entity key)

include spares

/-- An entity lives on unless the exchange destroys it. -/
theorem lives_spared (lives : history.Lives entity) : Lives entity ((call, reply) :: history) := by
  refine inForce_cons.mpr (.inr ⟨fun ends => ?_, lives⟩)
  exact spares (.inl (Prod.mk.inj ends).1)

/-- A component stays as it is unless the exchange writes it. -/
theorem written_spared (allowed : history.Allows call reply) (lives : history.Lives entity) :
    written .components entity key (call, reply) = none := by
  by_contra wrote
  obtain ⟨found, wrote⟩ := Option.ne_none_iff_exists'.mp wrote
  obtain ⟨made, rfl, -⟩ | ⟨text, rfl, -⟩ := written_component wrote
  · have new : entity ∉ history.issued := by
      obtain ⟨data, rfl⟩ | rfl := made
      · obtain ⟨other, same, new⟩ := allowed
        cases same
        exact new
      · obtain ⟨other, same, new⟩ := allowed
        cases same
        exact new
    exact new (issued_of_lives lives)
  · exact spares (.inr ⟨text, rfl⟩)

end Spared

end History

section Play

variable {engine : Engine} {history : History} {entity : Entity} {key : String}

/-- Calls are played one part after the other. -/
theorem play_append (history : History) (first second : List Call) :
    engine.play history (first ++ second) =
      (engine.play history first).1.play (engine.play history first).2 second := by
  induction first generalizing engine history with
  | nil => rfl
  | cons call rest ih => exact ih _

/-- Calls that leave a component alone keep the entity alive and the component as it was. -/
theorem play_spared (reflects : Reflects engine history) (honest : history.Honest) (lives : history.Lives entity)
    (calls : List Call) (spare : ∀ call ∈ calls, ¬ call.Touches entity key)
    (bounded : (engine.play history calls).1.store.Bounded) :
    (engine.play history calls).2.Lives entity ∧
      (engine.play history calls).2.current .components entity key = history.current .components entity key := by
  induction calls generalizing engine history with
  | nil => exact ⟨lives, rfl⟩
  | cons call rest ih =>
      obtain ⟨spares, others⟩ := List.forall_mem_cons.mp spare
      have room : (engine.answer call).1.store.Bounded := bounded.of_grows (play_grows rest)
      have allowed := step_allowed reflects call room
      obtain ⟨alive, same⟩ := ih (step_reflects reflects call room) (History.honest_cons allowed honest)
        (History.lives_spared spares lives) others bounded
      refine ⟨alive, same.trans ?_⟩
      rw [current_cons, History.written_spared spares allowed lives]

/-- A component that was set is the text that was given. -/
theorem setComponent_current (reflects : Reflects engine history) (honest : history.Honest)
    (lives : history.Lives entity) {text : String} (done : (engine.answer (.setComponent entity key text)).2 = .done)
    (bounded : (engine.answer (.setComponent entity key text)).1.store.Bounded) :
    ∃ later, Reflects (engine.answer (.setComponent entity key text)).1 later ∧ later.Honest ∧ later.Lives entity ∧
      later.current .components entity key = some text := by
  have reflected := step_reflects reflects _ bounded
  have allowed := step_allowed reflects _ bounded
  rw [done] at reflected allowed
  refine ⟨_, reflected, History.honest_cons allowed honest, inForce_cons.mpr (.inr ⟨nofun, lives⟩), ?_⟩
  have wrote : written .components entity key (.setComponent entity key text, .done) = some (some text) :=
    if_pos ⟨rfl, rfl, rfl⟩
  rw [current_cons, wrote]

end Play

section Lookup

variable {engine : Engine} {history : History} {entity : Entity} {key : String}

/-- A living entity has texts. -/
theorem alive_texts (reflects : Reflects engine history) (lives : history.Lives entity) :
    ∃ texts, engine.store.texts? entity = some texts :=
  Option.isSome_iff_exists.mp ((reflects.alive entity).mpr lives)

/-- The engine tells the component that its history tells. -/
theorem component_current (reflects : Reflects engine history) (lives : history.Lives entity)
    (fine : key ∉ engine.failing) :
    engine.component entity key = .ok (history.current .components entity key) := by
  obtain ⟨texts, alive⟩ := alive_texts reflects lives
  rw [component_eq alive fine]
  exact congrArg Except.ok (reflects.texts .components entity key texts alive)

end Lookup

end ScriptHost.Engine
