/-
This file states that faults of hooks make no difference to a whole run.
-/
import ScriptHost.Proofs.Faults.Operations

namespace ScriptHost.Session.Faults

open Effect (together_pure together_throw)
open Run (Twins Cousins twins_get twins_note)

variable {call : Caller}

/-- Operations that are alike answer alike. -/
theorem operate_twins (fair : call.Fair) (host : Nat) {command other : Command Operation}
    (alike : command.Alike other) :
    Twins Answer.Alike (Perform.operate call command.host host command.operation)
      (Perform.operate call other.host host other.operation) := by
  cases alike with
  | same command => exact Perform.operation_twins fair command.host host command.operation
  | subscribe title name kind label like => exact Perform.subscribe_twins kind label like
  | subscribeRaw title name event label like => exact Perform.subscribeRaw_twins event label like
  | addListener title name label like =>
      apply (Run.twins_hooked label like).then
      exact fun _ _ alike => Perform.addListener_twins host label (.hook alike)
  | registerSystem title name kind label like => exact Perform.registerSystem_twins fair host kind label like
  | registerBehaviour title name entity script label like =>
      exact Perform.withEntity_twins entity (Perform.registerBehaviour_twins fair host script label like)
  | setBinder title name cap like => exact Perform.setBinder_twins cap like
  | newRuntime title name settings base like => exact Perform.newRuntime_twins fair name settings base like

/-- Commands that are alike go to one host. -/
theorem alike_host {command other : Command Operation} (alike : command.Alike other) :
    command.host = other.host := by
  cases alike <;> rfl

/-- Commands that are alike are written down under one title. -/
theorem alike_title {command other : Command Operation} (alike : command.Alike other) :
    command.title = other.title := by
  cases alike <;> rfl

/-- Commands that are alike answer alike. -/
theorem perform_twins (fair : call.Fair) {command other : Command Operation} (alike : command.Alike other) :
    Twins Answer.Alike (Perform.perform call command) (Perform.perform call other) := by
  have named : Twins Eq (Run.hostNamed command.host) (Run.hostNamed other.host) := by
    apply twins_get
    intro world world' same
    rw [same.names, alike_host alike]
    exact together_pure rfl
  apply named.then
  rintro host _ rfl
  exact operate_twins fair host alike

/-- Commands that are alike leave worlds that are alike. -/
theorem performAll_twins (fair : call.Fair) {commands others : List (Command Operation)}
    (alike : List.Forall₂ Command.Alike commands others) :
    Twins Eq (Perform.performAll call commands) (Perform.performAll call others) := by
  induction alike with
  | nil => exact together_pure rfl
  | @cons command other rest rest' same _ ih =>
      apply (perform_twins fair same).then
      intro answer answer' alike
      rw [alike_title same]
      exact (twins_note (.answered _ alike)).then fun _ _ _ => ih

/-- Two hooks may end in different ways. -/
theorem enact_cousins (ending other : Ending) : Cousins ending.enact other.enact := by
  intro world world' alike
  cases ending <;> cases other <;> exact ⟨trivial, alike⟩

/-- Both hooks do the same up to their ends, and the rest depends on their ends. -/
theorem called_together (fair : call.Fair) {hooked other : Hooked} (alike : hooked.Alike other)
    (arguments : Arguments) {results : Except Raised Unit → Except Raised Unit → Prop}
    (early : ∀ raised, results (.error raised) (.error raised))
    (ended : ∀ calls, Effect.Together World.Alike results
      (hooked.hook.turn calls).ending.enact (other.hook.turn calls).ending.enact) :
    Effect.Together World.Alike results
      (do Run.note (.called hooked.id hooked.label arguments)
          let turn := hooked.hook.turn (← Run.use hooked)
          Perform.performAll call turn.commands
          Run.note (.finished hooked.id arguments turn.ending)
          turn.ending.enact)
      (do Run.note (.called other.id other.label arguments)
          let turn := other.hook.turn (← Run.use other)
          Perform.performAll call turn.commands
          Run.note (.finished other.id arguments turn.ending)
          turn.ending.enact) := by
  rw [alike.id, alike.label]
  apply (twins_note (.same _)).bind early
  intro _ _ _
  apply (Run.twins_use alike.id).bind early
  rintro calls _ rfl
  apply (performAll_twins fair (alike.hook.turn calls)).bind early
  intro _ _ _
  apply (twins_note (.finished _ _ _ _)).bind early
  intro _ _ _
  exact ended calls

/-- However deep hooks nest, alike hooks are called alike. -/
theorem caller_fair (depth : Nat) : (caller depth).Fair := by
  induction depth with
  | zero => exact ⟨fun _ _ => together_throw rfl, fun _ _ => together_throw rfl, fun _ => together_throw rfl⟩
  | succ depth ih =>
      refine ⟨fun {hooked other} arguments alike => ?_, fun {hooked other} arguments same => ?_,
        fun alike => performAll_twins ih alike⟩
      · apply called_together ih alike arguments
        · intro raised
          cases raised <;> trivial
        · exact fun calls => enact_cousins _ _
      · apply called_together ih ⟨same.id, same.label, same.hook.like⟩ arguments
        · exact fun _ => rfl
        · intro calls
          rw [same.hook.ending calls]
          intro world world' alike
          cases (other.hook.turn calls).ending <;> exact ⟨rfl, alike⟩

/-- From worlds that are alike, commands that are alike end the same way and leave worlds that are alike:
the faults of hooks, but for those of starts and factories, change no more than what was reported and the
faults that were counted. -/
theorem faults_make_no_difference {world other : World} {commands others : List (Command Operation)}
    (start : world.Alike other) (alike : List.Forall₂ Command.Alike commands others) (depth : Nat) :
    (Scheduler.play depth commands world).1 = (Scheduler.play depth others other).1 ∧
      (Scheduler.play depth commands world).2.Alike (Scheduler.play depth others other).2 := by
  -- The depth bounds how far hooks nest, and callers of any depth are fair by induction on it.
  obtain ⟨ends, after⟩ := performAll_twins (caller_fair depth) alike world other start
  exact ⟨Effect.twin_eq.mp ends, after⟩

/-- The subscriber, the tick and the update of this run end in the given way. -/
def brittle (ending : Ending) : List (Command Operation) :=
  [⟨"", "", .subscribe .logicTick "hearer" ⟨fun _ => ⟨[], ending⟩⟩⟩,
    ⟨"", "", .registerSystem 0 "guard" ⟨⟨fun _ => ⟨[], ending⟩⟩, ⟨fun _ => ⟨[], .normal⟩⟩⟩⟩,
    ⟨"", "", .registerBehaviour (.number ⟨0⟩) "script" "walker"
      ⟨⟨fun _ => ⟨[], .normal⟩⟩, ⟨fun _ => ⟨[], .normal⟩⟩, ⟨fun _ => ⟨[], ending⟩⟩, ⟨fun _ => ⟨[], .normal⟩⟩⟩⟩,
    ⟨"", "", .publish (.logicTick 1)⟩, ⟨"", "", .tick ⟨0, 1⟩⟩]

/-- The two hooks of the example are alike. -/
theorem brittle_alike (ending other : Ending) :
    List.Forall₂ Command.Alike (brittle ending) (brittle other) := by
  have like : Hook.Like Command.Alike ⟨fun _ => ⟨[], ending⟩⟩ ⟨fun _ => ⟨[], other⟩⟩ :=
    .intro fun _ => .nil
  refine .cons (.subscribe _ _ _ _ like) (.cons ?_ (.cons ?_ (Command.alike_refl _)))
  · exact .registerSystem _ _ _ _ (.intro like (.refl _))
  · exact .registerBehaviour _ _ _ _ _ (.intro (.refl _) (.refl _) like (.refl _))

/-- A new world is alike to itself. -/
theorem create_alike (tree : File.Tree) (draws : Script.Draws) :
    (World.create tree draws).Alike (World.create tree draws) :=
  ⟨rfl, rfl, rfl, ⟨rfl, .nil, .nil, rfl⟩, rfl, .cons World.Alike.core .nil, .nil, rfl, rfl, rfl, .nil⟩

/-- Three panics are reported, and the worlds are alike all the same. -/
theorem faults_make_no_difference_brittle :
    (World.create ⟨[], []⟩ .lowest).Alike (World.create ⟨[], []⟩ .lowest) ∧
      List.Forall₂ Command.Alike (brittle .normal) (brittle (.panic none)) ∧
      (Scheduler.play 3 (brittle .normal) (World.create ⟨[], []⟩ .lowest)).2.journal.length + 3 =
        (Scheduler.play 3 (brittle (.panic none)) (World.create ⟨[], []⟩ .lowest)).2.journal.length ∧
      (Scheduler.play 3 (brittle .normal) (World.create ⟨[], []⟩ .lowest)).1 =
        (Scheduler.play 3 (brittle (.panic none)) (World.create ⟨[], []⟩ .lowest)).1 ∧
      (Scheduler.play 3 (brittle .normal) (World.create ⟨[], []⟩ .lowest)).2.Alike
        (Scheduler.play 3 (brittle (.panic none)) (World.create ⟨[], []⟩ .lowest)).2 := by
  refine ⟨create_alike _ _, brittle_alike _ _, ?_,
    faults_make_no_difference (create_alike _ _) (brittle_alike _ _) 3⟩
  decide +kernel

end ScriptHost.Session.Faults
