/-
This file shows that hooks and commands that manage receivers keep the invariant, however deep they nest.
-/
import ScriptHost.Proofs.Schedule.Arrival

namespace ScriptHost.Session.Scheduler

open World (registryOf)
open Run (Returns Enacts)

variable {name : String} {host : Nat} {waiting : List Nat} {running : Option Nat} {call : Caller}
  {world after : World} {receiver : Receiver}

/-- How often hooks were used does not matter to nested runs. -/
theorem Nested.count (world : World) (uses : List Nat) : Nested host world (world.count uses) :=
  Nested.aside rfl rfl

/-- So many hooks have been made, and nothing else has happened. -/
structure Made (count : Nat) (world after : World) : Prop where
  names : after.names = world.names
  hosts : after.hosts = world.hosts
  journal : after.journal = world.journal
  uses : after.uses.length = world.uses.length + count

/-- Nothing has been made at first. -/
theorem Made.refl (world : World) : Made 0 world world :=
  ⟨rfl, rfl, rfl, rfl⟩

/-- One more hook may be made. -/
theorem Made.hooked {count : Nat} (made : Made count world after) :
    Made (count + 1) world (after.count (after.uses ++ [0])) where
  names := made.names
  hosts := made.hosts
  journal := made.journal
  uses := by
    rw [World.count_uses, List.length_append, made.uses]
    rfl

/-- New hooks leave the invariant as it is. -/
theorem Made.steady {count : Nat} (made : Made count world after)
    (steady : Steady name host waiting running world) : Steady name host waiting running after :=
  steady.aside (by rw [made.names]) made.hosts made.journal (by rw [made.uses]; omega)

/-- What is kept behind new hooks is kept as a whole. -/
theorem Made.keeps {α : Type} {count : Nat} {body : Run α} (made : Made count world after)
    (keeps : Keeps name host waiting running after body) :
    body.Ends after (Returns (fun _ last =>
      Steady name host waiting running last ∧ Nested host world last) (RecordedIn host)) :=
  keeps.relax fun _ _ ⟨steady, nested⟩ =>
    ⟨steady, (Nested.aside made.hosts made.journal).trans nested⟩

/-- A receiver arrives with the hooks that have been made. -/
theorem Made.arrives {count : Nat} (made : Made count world after)
    (steady : Steady name host waiting running world) (managed : Managed name receiver)
    (fresh : hooks receiver = (List.range count).map (world.uses.length + ·)) :
    Arrives name host after receiver where
  managed := managed
  distinct := by
    rw [fresh]
    exact List.nodup_range.map fun _ _ => Nat.add_left_cancel
  known hook member := by
    rw [fresh] at member
    obtain ⟨index, inside, rfl⟩ := List.mem_map.mp member
    have bound := List.mem_range.mp inside
    rw [made.uses]
    omega
  fresh hook member := by
    rw [fresh] at member
    obtain ⟨index, _, rfl⟩ := List.mem_map.mp member
    rw [registryOf_congr made.hosts, made.journal]
    intro owned
    have known := steady.kept.known _ owned
    omega
  unmentioned := by
    rw [made.journal]
    intro entry written hook mentioned member
    rw [fresh] at member
    obtain ⟨index, _, rfl⟩ := List.mem_map.mp member
    have known := steady.kept.mentioned entry written _ mentioned
    omega

/-- Whoever registers a receiver gives it a name if it is accepted. -/
theorem named_keeps (lawful : Lawful name host call) (steady : Steady name host waiting running world)
    (label : String) (arrives : Arrives name host world receiver) :
    Keeps name host waiting running world (do
      match ← register call host receiver with
      | some id => do
          Run.nameHandle label (.receiver host id)
          return Answer.truth true
      | none => return .truth false) := by
  refine (register_keeps lawful steady arrives).bind fun accepted after steady _ => ?_
  cases accepted with
  | some id =>
      exact ⟨steady.aside rfl rfl rfl (Nat.le_refl _), Nested.aside rfl rfl⟩
  | none => exact keeps_pure steady _

/-- A command that registers a system keeps the invariant. -/
theorem registerSystem_keeps (lawful : Lawful name host call)
    (steady : Steady name host waiting running world) (kind : Nat) (label : String)
    {hooks : SystemHooks Operation} (onTick : hooks.onTick.Managing name)
    (shutdown : hooks.shutdown.Managing name) :
    Keeps name host waiting running world (Perform.registerSystem call host kind label hooks) := by
  have made := (Made.refl world).hooked.hooked
  unfold Keeps Perform.registerSystem
  simp only [Run.ends_bind, Run.ends_hooked, Run.followed_ok]
  rw [← Run.ends_bind]
  refine made.keeps (named_keeps lawful (made.steady steady) label (made.arrives steady ?_ ?_))
  · exact ⟨onTick, shutdown⟩
  · simp [Scheduler.hooks, parts, List.range_succ]

/-- A command that registers a behaviour keeps the invariant. -/
theorem registerBehaviour_keeps (lawful : Lawful name host call)
    (steady : Steady name host waiting running world) (script label : String)
    {hooks : BehaviourHooks Operation} (attach : hooks.attach.Idle)
    (start : hooks.start.Managing name) (update : hooks.update.Managing name)
    (dispose : hooks.dispose.Managing name) (entity : Entity) :
    Keeps name host waiting running world
      (Perform.registerBehaviour call host script label hooks entity) := by
  have made := (Made.refl world).hooked.hooked.hooked.hooked
  unfold Keeps Perform.registerBehaviour Binding.behaviourHooks
  simp only [Run.ends_bind, Run.ends_hooked, Run.followed_ok, Run.ends_pure]
  rw [← Run.ends_bind]
  refine made.keeps (named_keeps lawful (made.steady steady) label (made.arrives steady ?_ ?_))
  · exact ⟨attach, start, update, dispose⟩
  · simp [Scheduler.hooks, parts, List.range_succ]

/-- An entity is looked up, and the run that it is for may not be carried out. -/
theorem withEntity_keeps (steady : Steady name host waiting running world) (entity : EntityName)
    {body : Entity → Run Answer} (keeps : ∀ entity, Keeps name host waiting running world (body entity)) :
    Keeps name host waiting running world (Perform.withEntity entity body) := by
  cases entity with
  | number entity => exact keeps entity
  | name text =>
      unfold Keeps Perform.withEntity
      dsimp only
      rw [Run.ends_bind, Run.ends_get, Run.followed_ok]
      split
      · exact keeps _
      · exact keeps_pure steady _

/-- A command on a handle keeps the invariant if it does so for whatever is found. -/
theorem withHandle_keeps {α : Type} (steady : Steady name host waiting running world)
    (handle : String) (part : Handle → Option α) {body : α → Run Answer}
    (keeps : ∀ value, Keeps name host waiting running world (body value)) :
    Keeps name host waiting running world (Perform.withHandle handle part body) := by
  unfold Keeps Perform.withHandle
  rw [Run.ends_bind, Run.ends_get, Run.followed_ok]
  split
  · exact keeps _
  · exact keeps_pure steady _

/-- The shape of an answer does not matter. -/
theorem Keeps.answer {α : Type} {body : Run α} (keeps : Keeps name host waiting running world body)
    (shape : α → Answer) : Keeps name host waiting running world (do return shape (← body)) :=
  keeps.bind fun _ _ steady _ => keeps_pure steady _

/-- Every operation that manages receivers keeps the invariant. -/
theorem operate_keeps (lawful : Lawful name host call)
    (steady : Steady name host waiting running world) {command : Command Operation}
    (manages : Manages name command) :
    Keeps name host waiting running world (Perform.operate call name host command.operation) := by
  cases manages with
  | registerSystem title kind label hooks onTick shutdown =>
      exact registerSystem_keeps lawful steady kind label onTick shutdown
  | registerBehaviour title entity script label hooks attach start update dispose =>
      exact withEntity_keeps steady entity
        (registerBehaviour_keeps lawful steady script label attach start update dispose)
  | unregister title handle =>
      exact withHandle_keeps steady handle Perform.receiver? fun receiver =>
        (unregister_keeps lawful receiver.2 steady).answer _
  | purgeBehaviours title => exact (removeWhere_keeps lawful _ steady).answer _
  | purgeEntity title entity =>
      exact withEntity_keeps steady entity fun entity => (removeWhere_keeps lawful _ steady).answer _
  | shutDown title => exact (removeWhere_keeps lawful _ steady).answer _

/-- Managing commands go to the host of their name. -/
theorem manages_host {command : Command Operation} (manages : Manages name command) :
    command.host = name := by
  cases manages <;> rfl

/-- Every command that manages receivers keeps the invariant. -/
theorem perform_keeps (lawful : Lawful name host call)
    (steady : Steady name host waiting running world) {command : Command Operation}
    (manages : Manages name command) :
    Keeps name host waiting running world (Perform.perform call command) := by
  obtain rfl := manages_host manages
  unfold Keeps Perform.perform
  rw [Run.ends_bind, Run.ends_hostNamed, Run.followed_ok, steady.named]
  exact operate_keeps lawful steady manages

/-- Several such commands keep the invariant. -/
theorem performAll_keeps (lawful : Lawful name host call) (commands : List (Command Operation))
    (manages : ∀ command ∈ commands, Manages name command)
    (steady : Steady name host waiting running world) :
    Keeps name host waiting running world (Perform.performAll call commands) := by
  induction commands generalizing world with
  | nil => exact keeps_pure steady ()
  | cons command commands ih =>
      refine (perform_keeps lawful steady (manages command List.mem_cons_self)).bind
        fun answer after steady _ => ?_
      have noted : Steady name host waiting running (after.note (.answered command.title answer)) :=
        steady.note trivial rfl
      have rest := ih (fun command member => manages command (List.mem_cons_of_mem _ member)) noted
      unfold Keeps
      rw [Run.ends_bind, Run.ends_note, Run.followed_ok]
      exact rest.relax fun _ _ ⟨steady, nested⟩ =>
        ⟨steady, (Nested.note after (by simp) rfl).trans nested⟩

/-- Hooks keep the invariant however deep they may nest. -/
theorem caller_lawful (name : String) (host depth : Nat) : Lawful name host (caller depth) := by
  induction depth with
  | zero =>
      refine ⟨fun {waiting running hooked arguments world} managing steady later => ?_, fun idle => rfl⟩
      exact steady.kept.recorded_before later
  | succ depth ih =>
      refine ⟨fun {waiting running hooked arguments world} managing steady later => ?_,
        fun {hooked arguments world} idle => ?_⟩
      · refine Run.ends_called fun count uses length => ?_
        have counted : Steady name host waiting running
            ((world.note (.called hooked.id hooked.label arguments)).count uses) :=
          steady.aside rfl rfl rfl (Nat.le_of_eq length.symm)
        refine (performAll_keeps ih _ (managing count) counted).enacts ?_
        intro _ last holds
        obtain ⟨steady, nested⟩ := holds
        rw [Run.ends_bind, Run.ends_note, Run.followed_ok]
        exact Run.ends_enact ⟨last, rfl, steady, (Nested.count _ uses).trans nested⟩
      · refine Run.ends_called fun count uses length => ?_
        rw [idle count]
        exact Run.ends_enact ⟨uses, length, rfl⟩

end ScriptHost.Session.Scheduler
