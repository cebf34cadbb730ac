/-
This file surveys what counts about a world for who holds the context and who hears of ticks, and shows that
hooks which leave runtimes, events and ticks alone change nothing of it.
-/
import ScriptHost.Proofs.Congruence.Commands
import ScriptHost.Proofs.Congruence.Holding

namespace ScriptHost.Session

/-- Hooks of this scope work with the engine, receivers, files and factories, but not with events and ticks. -/
def Scope.quiet : Scope := ⟨true, true, false⟩

/-- The scheduler of this host has begun to tick. -/
def Entry.began? : Entry → Option (Nat × Tick.Signal)
  | .tickBegan host signal => some (host, signal)
  | _ => none

namespace Tenure

/-- All ticks that have begun, latest first. -/
def ticks (world : World) : List (Nat × Tick.Signal) :=
  world.journal.filterMap Entry.began?

/-- How far the runtime of a host is, what the host hears, and whether it is to be freed. -/
structure Standing where
  engaged : Option (RuntimeState × Option Nat)
  subscription : Option Nat
  listeners : List (Tick.Listening Listener)
  users : Nat
  named : Bool
  freed : Bool

def standing (state : Host) : Standing :=
  ⟨Shutdown.engaged state, state.source.subscription, state.source.listeners, state.users, state.named,
    state.freed⟩

structure Survey where
  claimed : Bool
  heard : List (Event.Subscription Handler)
  named : List (String × Nat)
  length : Nat
  standing : Nat → Standing
  ticks : List (Nat × Tick.Signal)

def survey (world : World) : Survey where
  claimed := world.claimed
  heard := world.bridge.typed.under .logicTick
  named := world.names.hosts
  length := world.hosts.length
  standing host := standing (world.hostOf host)
  ticks := ticks world

namespace Survey

def alter (survey : Survey) (place : Nat) (change : Standing → Standing) : Survey :=
  { survey with standing := Function.update survey.standing place (change (survey.standing place)) }

/-- Two changes of one host make one. -/
theorem alter_alter (survey : Survey) (place : Nat) (first second : Standing → Standing) :
    (survey.alter place first).alter place second =
      survey.alter place fun standing => second (first standing) := by
  simp [alter]

/-- A change that changes nothing leaves the survey as it is. -/
theorem alter_id (survey : Survey) (place : Nat) : survey.alter place (fun standing => standing) = survey := by
  simp [alter]

def begin (survey : Survey) (recent : List (Nat × Tick.Signal)) : Survey :=
  { survey with ticks := recent ++ survey.ticks }

end Survey

/-- This is what counts about the world, and all hooks that it keeps are quiet. -/
structure Shows (seen : Survey) (world : World) : Prop where
  within : WithinWorld .quiet world
  same : survey world = seen

variable {seen : Survey} {world after : World} {host place : Nat}

/-- A host that is spared stands as it did. -/
theorem standing_spared {state other : Host} (spares : state.Spares other) : standing other = standing state := by
  have engaged : Shutdown.engaged other = Shutdown.engaged state := by
    have reached := spares.state
    have driven := spares.listener
    unfold Shutdown.engaged
    cases former : state.runtime <;> cases later : other.runtime <;> simp_all
  unfold standing
  rw [engaged, spares.source, spares.users, spares.named, spares.freed]

/-- A host that is put in its place changes its own standing. -/
theorem survey_putHost (present : place < world.hosts.length) {state : Host} {change : Standing → Standing}
    (changed : standing state = change (standing (world.hostOf place))) :
    survey (world.putHost place state) = (survey world).alter place change := by
  have standings : (fun host => standing ((world.putHost place state).hostOf host)) =
      Function.update (fun host => standing (world.hostOf host)) place
        (change (standing (world.hostOf place))) := by
    funext host
    rw [World.putHost_hostOf present]
    by_cases same : host = place
    · rw [if_pos same, same, Function.update_self, changed]
    · rw [if_neg same, Function.update_of_ne same]
  unfold survey Survey.alter
  rw [standings, World.putHost_length]
  rfl

/-- A host may change in what does not count. -/
theorem survey_kept {state : Host} (same : standing state = standing (world.hostOf place)) :
    survey (world.putHost place state) = survey world := by
  have standings : (fun host => standing ((world.putHost place state).hostOf host)) =
      fun host => standing (world.hostOf host) := by
    funext host
    obtain kept | ⟨rfl, put⟩ := world.hostOf_putHost place state host
    · rw [kept]
    · rw [put, same]
  unfold survey
  rw [standings, World.putHost_length]
  rfl

/-- Records begin no ticks. -/
theorem ticks_reported (records : List TraceRecord) (journal : List Entry) :
    (records.map Entry.reported ++ journal).filterMap Entry.began? = journal.filterMap Entry.began? := by
  have silent : (records.map Entry.reported).filterMap Entry.began? = [] := by
    rw [List.filterMap_eq_nil_iff]
    intro entry member
    obtain ⟨record, -, rfl⟩ := List.mem_map.mp member
    rfl
  rw [List.filterMap_append, silent, List.nil_append]

/-- A world that is spared has the same survey. -/
theorem survey_spared (spares : world.Spares after) : survey after = survey world := by
  have standings : (fun host => standing (after.hostOf host)) = fun host => standing (world.hostOf host) :=
    funext fun host => standing_spared (spares.hostOf host)
  have began : ticks after = ticks world := by
    obtain ⟨records, same⟩ := spares.journal
    rw [ticks, same, ticks_reported, ticks]
  unfold survey
  rw [standings, began, spares.claimed, spares.bridge, spares.named, ← spares.hosts.length_eq]

namespace Shows

/-- A world shows what it is surveyed to be. -/
theorem self (within : WithinWorld .quiet world) : Shows (survey world) world := ⟨within, rfl⟩

variable (holds : Shows seen world)

include holds

/-- An entry that begins no tick changes no survey. -/
theorem note {entry : Entry} (silent : entry.began? = none) : Shows seen (world.note entry) where
  within := holds.within.note entry
  same := by
    have began : ticks (world.note entry) = ticks world := List.filterMap_cons_none silent
    rw [← holds.same]
    unfold survey
    rw [began]
    rfl

/-- A tick that begins is surveyed. -/
theorem began (host : Nat) (signal : Tick.Signal) :
    Shows (seen.begin [(host, signal)]) (world.note (.tickBegan host signal)) := by
  rw [← holds.same]
  exact ⟨holds.within.note _, rfl⟩

/-- A host that stands as it did may be put in its place. -/
theorem kept {state : Host} (same : standing state = standing (world.hostOf place))
    (within : WithinWorld .quiet (world.putHost place state)) : Shows seen (world.putHost place state) :=
  ⟨within, (survey_kept same).trans holds.same⟩

/-- A world that is spared shows the same. -/
theorem spared (spares : world.Spares after) : Shows seen after :=
  ⟨holds.within.spared spares, (survey_spared spares).trans holds.same⟩

/-- What a script does outside changes no survey. -/
theorem leave (place : Nat) (outside : Script.Outside) : Shows seen (world.leave place outside) where
  within := holds.within.leave place outside
  same := by
    have logged : survey (world.putHost place { world.hostOf place with log := outside.log }) = survey world :=
      survey_kept rfl
    rw [← holds.same, ← logged]
    have began : ticks (world.leave place outside) = ticks world := by
      change ((outside.records.map Entry.reported).reverse ++ world.journal).filterMap Entry.began? = _
      rw [← List.map_reverse, ticks_reported]
      rfl
    unfold survey
    rw [began]
    rfl

/-- The survey tells whether the context is claimed. -/
theorem claimed_eq : world.claimed = seen.claimed := congrArg Survey.claimed holds.same

/-- The survey tells who hears of native ticks. -/
theorem heard_eq : world.bridge.typed.under .logicTick = seen.heard := congrArg Survey.heard holds.same

/-- The survey tells the names of the hosts. -/
theorem named_eq : world.names.hosts = seen.named := congrArg Survey.named holds.same

/-- The survey tells how many hosts there are. -/
theorem length_eq : world.hosts.length = seen.length := congrArg Survey.length holds.same

/-- The survey tells which ticks have begun. -/
theorem ticks_eq : ticks world = seen.ticks := congrArg Survey.ticks holds.same

/-- The survey tells how each host stands. -/
theorem standing_eq (host : Nat) : standing (world.hostOf host) = seen.standing host :=
  congrArg (fun survey : Survey => survey.standing host) holds.same

end Shows

/-- Quiet work on receivers is surveyed alike. -/
theorem shows_congruence (seen : Survey) : Congruence .quiet (fun _ _ => True) (Diagonal (Shows seen)) where
  engine := by rintro _ _ ⟨rfl, -⟩; rfl
  draws := by rintro _ _ ⟨rfl, -⟩; rfl
  names := by rintro _ _ ⟨rfl, -⟩; rfl
  uses := by rintro _ _ ⟨rfl, -⟩; rfl
  claimed := by rintro _ _ ⟨rfl, -⟩; rfl
  registry := by rintro _ _ ⟨rfl, -⟩ _; rfl
  log := by rintro _ _ ⟨rfl, -⟩ _; rfl
  scripts := by rintro _ _ ⟨rfl, -⟩ _; rfl
  within holds := holds.2.within.receivers
  system _ := trivial
  hooked _ := trivial
  note := by
    rintro _ _ entry quiet ⟨rfl, holds⟩
    apply Diagonal.refl
    apply holds.note
    cases entry <;> first | rfl | cases quiet
  leave := by
    rintro _ _ place outside ⟨rfl, holds⟩
    exact .refl (holds.leave place outside)
  count := by
    rintro _ _ uses ⟨rfl, holds⟩
    exact .refl ⟨holds.within.count uses, holds.same⟩
  steer := by
    rintro _ _ engine ⟨rfl, holds⟩
    exact .refl ⟨holds.within.steer engine, holds.same⟩
  rename := by
    rintro world _ names ⟨rfl, holds⟩ same
    have named : survey (world.rename names) = { survey world with named := names.hosts } := rfl
    exact .refl ⟨holds.within.rename names, by rw [named, same]; exact holds.same⟩
  change := by
    rintro world _ place registry ⟨rfl, holds⟩ alters
    exact .refl (holds.kept rfl (holds.within.change alters))
  add := by
    rintro world _ place receiver ⟨rfl, holds⟩ - within
    exact .refl (holds.kept rfl (holds.within.add within))

/-- Quiet binding is surveyed alike. -/
theorem shows_bindable (seen : Survey) : Bindable .quiet (fun _ _ => True) (Diagonal (Shows seen)) where
  factories := by rintro _ _ ⟨rfl, -⟩; rfl
  within holds := holds.2.within.factories
  binder := by rintro _ _ ⟨rfl, -⟩ _; rfl
  restock := by
    rintro _ _ factories ⟨rfl, holds⟩ within
    exact .refl ⟨holds.within.restock within, holds.same⟩
  rebind := by
    rintro world _ place binder ⟨rfl, holds⟩
    exact .refl (holds.kept rfl
      (holds.within.putHost place _ (holds.within.receivers place) (holds.within.sources place)))
  library := by rintro _ _ ⟨rfl, -⟩ _; rfl
  scripted _ _ _ := trivial

/-- Quiet commands are surveyed alike. -/
theorem shows_heeds (seen : Survey) : Heeds .quiet (fun _ _ => True) (Diagonal (Shows seen)) where
  toCongruence := shows_congruence seen
  calm := by
    rintro _ α body plain world _ ⟨rfl, holds⟩
    exact ⟨Effect.twin_eq.mpr rfl, .refl (holds.spared (plain.spares world))⟩
  stocks _ := (shows_bindable seen).toStocked
  hears allowed := nomatch allowed

end Tenure

end ScriptHost.Session
