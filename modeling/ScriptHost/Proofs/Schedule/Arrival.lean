/-
This file shows that the operations that register receivers keep the invariant.
-/
import ScriptHost.Proofs.Schedule.Removal

namespace ScriptHost.Session.Scheduler

open World (registryOf)
open Run (Returns Enacts)

variable {name : String} {host : Nat} {waiting : List Nat} {running : Option Nat} {call : Caller}
  {world after : World} {receiver : Receiver}

/-- The registry of the world has not seen the receiver yet. -/
def Arrives (name : String) (host : Nat) (world : World) (receiver : Receiver) : Prop :=
  Newcomer name host (world.registryOf host) world.uses.length world.journal receiver

/-- The receiver is ready to be entered in the registry, which is as it was in the earlier world. -/
structure Ready (name : String) (host : Nat) (waiting : List Nat) (running : Option Nat)
    (receiver : Receiver) (world after : World) : Prop where
  steady : Steady name host waiting running after
  nested : Nested host world after
  registry : after.registryOf host = world.registryOf host
  uses : after.uses.length = world.uses.length
  owned : owned host (world.registryOf host) after.journal =
    owned host (world.registryOf host) world.journal
  unheard : Unheard receiver after.journal
  lives : Lives ⟨receiver, false, .live, false⟩ (calls receiver after.journal)

/-- Whoever was unheard or was attached stays unheard. -/
theorem Unheard.cons {entry : Entry} {journal : List Entry} (unheard : Unheard receiver journal)
    (attaches : ∀ hook, entry.hook? = some hook →
      part? receiver hook = none ∨ part? receiver hook = some .attach) :
    Unheard receiver (entry :: journal) := by
  intro other member
  rcases List.mem_cons.mp member with rfl | member
  · exact attaches
  · exact unheard other member

/-- Whoever arrives has not been heard of. -/
theorem Arrives.unheard (arrives : Arrives name host world receiver) :
    Unheard receiver world.journal := by
  intro entry member hook mentioned
  exact Or.inl (part?_eq_none (arrives.unmentioned entry member hook mentioned))

/-- A report leaves a newcomer ready. -/
theorem Ready.report (ready : Ready name host waiting running receiver world after)
    (record : TraceRecord) :
    Ready name host waiting running receiver world (after.note (.reported record)) where
  steady := ready.steady.note trivial rfl
  nested := ready.nested.trans (Nested.note after (by simp) rfl)
  registry := ready.registry
  uses := ready.uses
  owned := ready.owned
  unheard := ready.unheard.cons (by simp [Entry.hook?])
  lives := by
    rw [World.note_journal, calls_cons_unheard rfl]
    exact ready.lives

/-- A system is not attached. -/
theorem system_ready (steady : Steady name host waiting running world) {kind : Nat}
    {logic : SystemLogic} (arrives : Arrives name host world (.system kind logic)) :
    Ready name host waiting running (.system kind logic) world world where
  steady := steady
  nested := Nested.refl world
  registry := rfl
  uses := rfl
  owned := rfl
  unheard := arrives.unheard
  lives := by
    rw [calls_eq_nil (Newcomer.unheard arrives)]
    exact ⟨[], ⟨0, rfl⟩, rfl⟩

/-- A lock leaves what was recorded as it is. -/
theorem Recorded.lock {registry : Registry} {journal : List Entry} {locked : Bool}
    (recorded : Recorded host registry journal) : Recorded host { registry with locked } journal where
  lives := recorded.lives
  dismissed := recorded.dismissed
  story := ⟨recorded.story.listings, recorded.story.current, recorded.story.entered,
    recorded.story.left, recorded.story.quiet, recorded.story.resumed⟩

/-- The behaviour has been attached, and nothing else has happened. -/
theorem attached_ready (steady : Steady name host waiting running world) {attach : Hooked}
    (arrives : Arrives name host world receiver)
    (plays : (attach.id, Part.attach) ∈ parts receiver)
    (lives : Lives ⟨receiver, false, .live, false⟩ [.attach]) {ending : Ending}
    {arguments : Arguments} (ofTick : arguments.ofTick = false)
    (names : after.names = world.names) (present : host < after.hosts.length)
    (registry : after.registryOf host = world.registryOf host)
    (uses : after.uses.length = world.uses.length)
    (journal : after.journal = .finished attach.id arguments ending ::
      .called attach.id attach.label arguments :: world.journal) :
    Ready name host waiting running receiver world after := by
  have played := part?_of_mem arrives.distinct plays
  have member := mem_hooks_of_part? played
  have known := arrives.known attach.id member
  have fresh := arrives.fresh attach.id member
  have called := steady.kept.stranger steady.closed attach.label arguments known fresh
  have kept := called.finish (closed_cons (by simp)) arguments ending known
  rw [← registry, ← uses, ← journal] at kept
  have closed : Closed (after.registryOf host) after.journal := by
    intro hook given rest other same inside begins
    rw [journal] at same
    obtain ⟨rfl, _, _⟩ := Entry.finished.inj (List.cons.inj same).1
    rw [registry] at inside
    exact absurd (List.mem_flatMap.mpr ⟨other, List.mem_append_left _ inside,
      mem_hooks_of_part? begins⟩) fresh
  have since : Since host [.finished attach.id arguments ending,
      .called attach.id attach.label arguments] world after :=
    { journal := journal
      accepted := ⟨[], by rw [registry, List.append_nil]⟩
      listed := by simp
      registered := by
        intro id member _
        rwa [registry] at member }
  refine ⟨⟨by rw [names]; exact steady.named, present, closed, kept⟩,
    ⟨⟨_, since, by simp [Entry.ofTick, ofTick]⟩, ?started⟩, registry, uses, ?owned, ?unheard, ?lives⟩
  case started =>
    intro id slot held
    rw [registry]
    exact ⟨slot, held, rfl⟩
  case owned =>
    rw [journal]
    rfl
  case unheard =>
    rw [journal]
    refine (arrives.unheard.cons ?_).cons ?_ <;> rintro hook ⟨⟩ <;> exact Or.inr played
  case lives =>
    rw [journal, calls_cons, calls_cons, calls_eq_nil (Newcomer.unheard arrives)]
    simpa [heard?, played] using lives

/-- A behaviour is attached while the registry is locked. -/
theorem attach_ready (lawful : Lawful name host call) (steady : Steady name host waiting running world)
    {entity : Entity} {script : String} {attach start update dispose : Hooked}
    (arrives : Arrives name host world
      (.behaviour entity script (.hooked attach start update dispose))) :
    (Scheduler.attach call host entity script (.hooked attach start update dispose)).Ends world
      (Returns (fun _ => Ready name host waiting running
        (.behaviour entity script (.hooked attach start update dispose)) world)
        (RecordedIn host)) := by
  have present := steady.present
  unfold Scheduler.attach
  dsimp only
  rw [Run.ends_bind, Run.ends_modifyRegistry, Run.followed_ok]
  refine Run.Ends.returns ((lawful.idle arrives.managed.1).isolate.excuse ?_) ?_
  · rintro after rfl
    unfold RecordedIn
    rw [World.putRegistry_registryOf present]
    exact steady.recorded.lock
  · intro fault after holds
    obtain ⟨ending, -, uses, same, rfl⟩ := holds
    rw [Run.ends_bind, Run.ends_modifyRegistry, Run.followed_ok]
    generalize written : World.putRegistry _ _ _ = last
    have ready : Ready name host waiting running
        (.behaviour entity script (.hooked attach start update dispose)) world last := by
      subst written
      refine attached_ready steady arrives (by simp [parts]) ⟨[.attach], rfl, rfl⟩ rfl rfl ?_ ?_ same rfl
      · simpa using present
      · rw [World.putRegistry_registryOf (by simpa using present)]
        simp only [World.count_registryOf, World.note_registryOf, World.putRegistry_registryOf present]
        rw [← steady.kept.unlocked]
    cases fault with
    | none => exact ready
    | some fault => exact ready.report _

/-- A receiver comes to the end of the registry. -/
theorem Nested.enter (present : host < world.hosts.length) (receiver : Receiver) :
    Nested host world (((world.putRegistry host ((world.registryOf host).add receiver).1).note
      (.listed host ((world.registryOf host).add receiver).1.registered)).note
        (.accepted host (world.registryOf host).slots.length)) := by
  have read : (world.putRegistry host ((world.registryOf host).add receiver).1).registryOf host =
      ((world.registryOf host).add receiver).1 := World.putRegistry_registryOf present
  have since : Since host [.accepted host (world.registryOf host).slots.length,
      .listed host ((world.registryOf host).add receiver).1.registered] world
      (((world.putRegistry host ((world.registryOf host).add receiver).1).note
        (.listed host ((world.registryOf host).add receiver).1.registered)).note
          (.accepted host (world.registryOf host).slots.length)) := by
    have old : ∀ id ∈ ((world.registryOf host).add receiver).1.registered,
        id < (world.registryOf host).slots.length → id ∈ (world.registryOf host).registered := by
      intro id member bound
      rcases List.mem_append.mp member with member | member
      · exact member
      · rw [List.mem_singleton.mp member] at bound
        exact absurd bound (Nat.lt_irrefl _)
    refine ⟨rfl, ?_, ?_, ?_⟩
    · rw [World.note_registryOf, World.note_registryOf, read, accepted_add]
      exact List.prefix_append _ _
    · intro ids member
      simp only [List.mem_cons, reduceCtorEq, false_or, List.not_mem_nil, or_false] at member
      obtain ⟨_, rfl⟩ := Entry.listed.inj member
      exact old
    · rw [World.note_registryOf, World.note_registryOf, read]
      exact old
  refine ⟨⟨_, since, by simp [Entry.ofTick]⟩, ?_⟩
  intro id slot held
  rw [World.note_registryOf, World.note_registryOf, read]
  refine ⟨slot, ?_, rfl⟩
  exact (List.getElem?_append_left (List.getElem?_eq_some_iff.mp held).1).trans held

/-- A receiver that is ready is entered. -/
theorem enter_keeps (ready : Ready name host waiting running receiver world after)
    (arrives : Arrives name host world receiver)
    (accepts : (world.registryOf host).accepts receiver = true) :
    (do
      let held ← Run.registry host
      match held.add receiver with
      | (registry, id) => do
        Run.setRegistry host registry
        Run.note (.accepted host id)
        return some id : Run (Option Nat)).Ends after (Returns (fun _ last =>
          Steady name host waiting running last ∧ Nested host world last) (RecordedIn host)) := by
  obtain ⟨steady, nested, registry, uses, owned, unheard, lives⟩ := ready
  have present := steady.present
  rw [← registry] at owned accepts
  unfold Arrives at arrives
  rw [← registry, ← uses] at arrives
  have entered : Steady name host waiting running
      (((after.putRegistry host ((after.registryOf host).add receiver).1).note
        (.listed host ((after.registryOf host).add receiver).1.registered)).note
          (.accepted host (after.registryOf host).slots.length)) := by
    refine ⟨steady.named, by simpa using present, closed_cons (by simp), ?_⟩
    rw [World.note_registryOf, World.note_registryOf, World.putRegistry_registryOf present]
    exact steady.kept.enter steady.closed arrives owned unheard lives accepts
  rw [Run.ends_bind, Run.ends_registry steady.kept.unlocked, Run.followed_ok]
  exact ⟨entered, nested.trans (Nested.enter present receiver)⟩

/-- A receiver that collides is told so. -/
theorem reject_keeps (lawful : Lawful name host call) (steady : Steady name host waiting running world)
    (arrives : Arrives name host world receiver) :
    Keeps name host waiting running (world.note (.rejected host receiver)) (reject call receiver) := by
  rcases receiver with ⟨kind, logic⟩ | ⟨entity, script, ⟨attach, start, update, dispose⟩ | _⟩
  · have told : Steady name host waiting running (world.note (.rejected host (.system kind logic))) :=
      ⟨steady.named, steady.present, closed_cons (by simp),
        steady.kept.reject steady.closed arrives [] (by simp) rfl⟩
    exact keeps_pure told ()
  · change Keeps name host waiting running _ (finalize call host 0
      (.behaviour entity script (.hooked attach start update dispose)))
    refine finalize_keeps lawful 0 arrives.managed arrives.distinct (Or.inr (by simp)) ?_
    intro hooked member
    have played := part?_of_mem arrives.distinct member
    refine ⟨steady.named, steady.present, closed_cons (by simp), ?_⟩
    refine steady.kept.reject steady.closed arrives [.called hooked.id hooked.label .none] ?_ ?_
    · intro entry member
      exact ⟨_, _, _, List.mem_singleton.mp member, played⟩
    · simp [heard?, played, dismissal]
  · exact arrives.managed.elim

/-- Registering keeps the invariant, whether the receiver is accepted or turned away. -/
theorem register_keeps (lawful : Lawful name host call) (steady : Steady name host waiting running world)
    (arrives : Arrives name host world receiver) :
    Keeps name host waiting running world (register call host receiver) := by
  unfold Keeps register
  rw [Run.ends_bind, Run.ends_registry steady.kept.unlocked, Run.followed_ok]
  split
  · next accepts =>
      rcases receiver with ⟨kind, logic⟩ | ⟨entity, script, ⟨attach, start, update, dispose⟩ | _⟩
      · exact enter_keeps (system_ready steady arrives) arrives accepts
      · exact Run.Ends.returns (attach_ready lawful steady arrives) fun _ _ ready =>
          enter_keeps ready arrives accepts
      · exact arrives.managed.elim
  · rw [Run.ends_bind, Run.ends_note, Run.followed_ok]
    refine Run.Ends.returns (reject_keeps lawful steady arrives) fun _ _ ⟨steady, nested⟩ => ?_
    exact ⟨steady, (Nested.note world (by simp) rfl).trans nested⟩

end ScriptHost.Session.Scheduler
