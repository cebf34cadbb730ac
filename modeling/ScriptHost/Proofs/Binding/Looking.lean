/-
This file shows that a pass sees nothing of hooks and factories that do no more than look at the world.
-/
import ScriptHost.Proofs.Binding.Pruning
import ScriptHost.Proofs.Binding.Making
import ScriptHost.Session.Perform

namespace ScriptHost.Session

/-- Such an operation answers and changes nothing. -/
inductive Looks : Operation → Prop
  | say (text : String) : Looks (.say text)
  | getComponent (entity : EntityName) (key : String) : Looks (.getComponent entity key)
  | alive (entity : EntityName) : Looks (.alive entity)
  | live (cap : Nat) : Looks (.live cap)
  | entityCount : Looks .entityCount
  | data (entity : EntityName) : Looks (.data entity)
  | interval : Looks .interval
  | clock : Looks .clock
  | slot (handle : String) : Looks (.slot handle)
  | countLogs : Looks .countLogs

def Hook.Looking (hook : Hook Operation) : Prop :=
  ∀ count, ∀ command ∈ (hook.turn count).commands, Looks command.operation

namespace Binding

variable {world : World} {host : Nat} {call : Caller}

/-- The body answers and leaves the world as it is. -/
def Answers (world : World) (body : Run Answer) : Prop :=
  body.Ends world fun result after => (∃ answer, result = .ok answer) ∧ after = world

/-- A command on an entity answers if it answers on every entity. -/
theorem withEntity_answers (name : EntityName) {body : Entity → Run Answer}
    (answers : ∀ entity, Answers world (body entity)) : Answers world (Perform.withEntity name body) := by
  unfold Answers Perform.withEntity
  cases name with
  | number entity => exact answers entity
  | name text =>
      dsimp only
      rw [Run.ends_bind, Run.ends_get, Run.followed_ok]
      cases world.names.entities.lookup text with
      | none => exact ⟨⟨_, rfl⟩, rfl⟩
      | some entity => exact answers entity

/-- Looking at the engine answers and changes nothing. -/
theorem look_answers {Value : Type} (shape : Value → Answer) (act : Engine → Except NativeError Value) :
    Answers world (Perform.look shape act) := by
  unfold Answers Perform.look
  rw [Run.ends_bind, Run.ends_get, Run.followed_ok]
  cases act world.engine with
  | ok value => exact ⟨⟨_, rfl⟩, rfl⟩
  | error error => exact ⟨⟨_, rfl⟩, rfl⟩

/-- Looking at a receiver that was kept answers and changes nothing. -/
theorem keptSlot_answers (handle : String) : Answers world (Perform.withHandle handle Perform.receiver?
    fun receiver => Perform.keptSlot receiver.1 receiver.2) := by
  unfold Answers Perform.withHandle
  rw [Run.ends_bind, Run.ends_get, Run.followed_ok]
  cases (world.names.handles.lookup handle).bind Perform.receiver? with
  | none => exact ⟨⟨_, rfl⟩, rfl⟩
  | some receiver => exact ⟨⟨_, rfl⟩, rfl⟩

/-- Every operation that looks answers and leaves the world as it is. -/
theorem operate_answers {operation : Operation} (looks : Looks operation) (call : Caller) (name : String)
    (host : Nat) : Answers world (Perform.operate call name host operation) := by
  cases looks with
  | say text => exact ⟨⟨_, rfl⟩, rfl⟩
  | getComponent entity key => exact withEntity_answers entity fun entity => look_answers _ _
  | alive entity => exact withEntity_answers entity fun entity => ⟨⟨_, rfl⟩, rfl⟩
  | live cap => exact look_answers _ _
  | entityCount => exact ⟨⟨_, rfl⟩, rfl⟩
  | data entity => exact withEntity_answers entity fun entity => ⟨⟨_, rfl⟩, rfl⟩
  | interval => exact ⟨⟨_, rfl⟩, rfl⟩
  | clock => exact ⟨⟨_, rfl⟩, rfl⟩
  | slot handle => exact keptSlot_answers handle
  | countLogs => exact ⟨⟨_, rfl⟩, rfl⟩

/-- Nothing but the answers is left of commands that look. -/
theorem performAll_unseen {commands : List (Command Operation)}
    (looks : ∀ command ∈ commands, Looks command.operation) (call : Caller) (host : Nat) (world : World) :
    (Perform.performAll call commands).Ends world fun result after =>
      result = .ok () ∧ view after host = view world host := by
  induction commands generalizing world with
  | nil => exact ⟨rfl, rfl⟩
  | cons command rest ih =>
      unfold Perform.performAll Perform.perform
      rw [Run.ends_bind, Run.ends_bind, Run.ends_hostNamed, Run.followed_ok]
      apply (operate_answers (looks command List.mem_cons_self) call _ _).mono
      intro result after answered
      obtain ⟨⟨answer, rfl⟩, rfl⟩ := answered
      rw [Run.followed_ok, Run.ends_bind, Run.ends_note, Run.followed_ok]
      exact ih (fun command member => looks command (List.mem_cons_of_mem _ member)) _

/-- A hook that only looks is not seen by a pass. -/
theorem hook_unseen {hooked : Hooked} (looking : hooked.hook.Looking) (depth host : Nat)
    (arguments : Arguments) (world : World) :
    Unseen host world ((caller (depth + 1)).hook hooked arguments) := by
  refine Run.ends_called fun count uses _ => ?_
  rw [Run.ends_bind]
  apply (performAll_unseen (looking count) (caller depth) host _).mono
  intro result after done
  obtain ⟨rfl, same⟩ := done
  rw [Run.followed_ok, Run.ends_bind, Run.ends_note, Run.followed_ok]
  exact Run.ends_enact same

/-- Factories and the hooks of behaviours leave alone whatever a pass sees. -/
structure Calm (call : Caller) (host : Nat) (first : View) : Prop where
  tame : ∀ entry ∈ first.chain, Tame call host entry.2
  disposable : Disposable call host first []

/-- The behaviour does no more than look when it is disposed of. -/
def LookingReceiver : Receiver → Prop
  | .system .. => True
  | .behaviour _ _ (.hooked _ _ _ dispose) => dispose.hook.Looking
  | .behaviour _ _ (.scripted ..) => False

/-- The factory does no more than look, and neither does what it makes while it is attached. -/
structure LookingFactory (factory : Factory Operation) : Prop where
  commands : ∀ script, ∀ command ∈ (factory.ask script).commands, Looks command.operation
  attachments : ∀ script hooks, (factory.ask script).offer = .made hooks → hooks.attach.Looking

/-- Among factories and receivers that only look, every pass is calm. -/
theorem calm_of_looking {first : View} (factories : ∀ entry ∈ first.chain, LookingFactory entry.2)
    (receivers : ∀ receiver ∈ first.receivers, LookingReceiver receiver) (depth host : Nat) :
    Calm (caller (depth + 1)) host first where
  tame entry member :=
    { commands := fun script => performAll_unseen ((factories entry member).commands script) (caller depth) host
      attachments := fun script hooks made id label entity =>
        hook_unseen ((factories entry member).attachments script hooks made) depth host _ }
  disposable id _ pair told _ receiver held world _ _ := by
    have quiet := receivers (bare receiver) (List.mem_of_getElem? held)
    rw [View.trait?, held, Option.bind_some, bare_binding?] at told
    rcases receiver with ⟨kind, logic⟩ | ⟨entity, script, ⟨attach, start, update, dispose⟩ | ⟨unit, subject⟩⟩
    · cases told
    · exact hook_unseen quiet depth host _ world
    · exact quiet.elim

end Binding

end ScriptHost.Session
