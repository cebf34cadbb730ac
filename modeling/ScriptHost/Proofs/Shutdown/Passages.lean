/-
This file says what every run keeps and leaves alone, as far as one host can close, and puts such runs
together.
-/
import ScriptHost.Proofs.Session.Plain
import ScriptHost.Proofs.Shutdown.Standing

namespace ScriptHost.Session

namespace World

def hostOf (world : World) (id : Nat) : Host :=
  (world.hosts[id]?).getD .core

def putHost (world : World) (id : Nat) (state : Host) : World :=
  { world with hosts := world.hosts.set id state }

/-- A host that is put in its place is found there. -/
theorem putHost_hostOf {world : World} {place : Nat} (present : place < world.hosts.length) (state : Host)
    (id : Nat) : (world.putHost place state).hostOf id = if id = place then state else world.hostOf id := by
  unfold putHost hostOf
  rw [List.getElem?_set]
  by_cases same : place = id
  · subst same
    simp [present]
  · simp [same, Ne.symm same]

/-- Putting a host in its place adds none. -/
theorem putHost_length {world : World} {place : Nat} {state : Host} :
    (world.putHost place state).hosts.length = world.hosts.length := List.length_set

end World

namespace Shutdown

def outlineOf (world : World) (host : Nat) : Outline :=
  .of (world.registryOf host)

/-- How far a runtime is, and which listener drives it. -/
def engaged (state : Host) : Option (RuntimeState × Option Nat) :=
  state.runtime.map fun runtime => (runtime.state, runtime.listener)

def engagement (world : World) (host : Nat) : Option (RuntimeState × Option Nat) :=
  engaged (world.hostOf host)

def listeners (world : World) (id : Nat) : List (Tick.Listening Listener) :=
  (world.hostOf id).source.listeners

/-- A runtime listens without a name. -/
def drives (host : Nat) (listening : Tick.Listening Listener) : Bool :=
  match listening.listener with
  | .scheduler place none => place == host
  | _ => false

/-- The runtime that is found tells how far it is. -/
theorem engagement_found {world : World} {place : Nat} {runtime : Runtime}
    (found : ((world.hosts[place]?).getD .core).runtime = some runtime) :
    engagement world place = some (runtime.state, runtime.listener) := by
  have read : (world.hostOf place).runtime = some runtime := found
  rw [engagement, engaged, read, Option.map_some]

/-- If no listener drives the host, none is counted. -/
theorem undriven {host : Nat} {listenings : List (Tick.Listening Listener)}
    (silent : ∀ listening ∈ listenings, drives host listening = false) :
    listenings.countP (drives host) = 0 := by
  rw [List.countP_eq_zero]
  intro listening member
  simp [silent listening member]

/-- What is mentioned is there. -/
structure Housed (world : World) : Prop where
  core : 0 < world.hosts.length
  named : ∀ entry ∈ world.names.hosts, entry.2 < world.hosts.length
  listeners : ∀ id, ∀ listening ∈ listeners world id, ∀ place name,
    listening.listener = .scheduler place name → place < world.hosts.length

/-- At most one listener drives the runtime of a host, and none does when the host has closed. -/
structure Tuned (host : Nat) (world : World) : Prop where
  apart : ∀ id, id ≠ host → ∀ listening ∈ listeners world id, drives host listening = false
  once : (listeners world host).countP (drives host) ≤ 1
  known : ∀ listening ∈ listeners world host, drives host listening = true →
    ∃ state, engagement world host = some (state, some listening.id) ∧ state ≠ .created
  shut : closed host world.journal = true →
    (∃ listener, engagement world host = some (.shutDown, listener)) ∧
      ∀ listening ∈ listeners world host, drives host listening = false

/-- This holds of every world, however a run has ended. -/
structure Sound (host : Nat) (world : World) : Prop where
  housed : Housed world
  tuned : Tuned host world
  tidy : Tidy host (outlineOf world host) world.journal
  hushed : Hushed host world.journal

/-- The journal only grows, nobody who has left comes back, and all ticks but the owed ones are paid for by broadcasts
that were heeded or by commands. -/
structure Onward (host : Nat) (owed : List Tick.Signal) (world after : World) : Prop where
  since : world.journal <:+ after.journal
  hosts : world.hosts.length ≤ after.hosts.length
  slots : (outlineOf world host).slots.length ≤ (outlineOf after host).slots.length
  lost : ∀ id < (outlineOf world host).slots.length, id ∉ (outlineOf world host).registered →
    id ∉ (outlineOf after host).registered
  paid : ∀ choose,
    balance host choose world.journal ≤ balance host choose after.journal + owed.countP choose
  spent : ∀ choose, spare host choose world.journal ≤ spare host choose after.journal

/-- A run that does not get stuck leaves nothing half done. -/
structure Settled (host : Nat) (world after : World) : Prop where
  locked : (outlineOf after host).locked = (outlineOf world host).locked
  busy : ∀ id, (outlineOf after host).busy id = (outlineOf world host).busy id
  loose : ∀ id, (outlineOf after host).Loose id → (outlineOf world host).Loose id
  strict : Strict host (outlineOf world host) world.journal →
    Strict host (outlineOf after host) after.journal

/-- A hook that is left early like this is taken up by whoever called it. -/
def Mild : Raised → Prop
  | .failed _ | .panicked _ => True
  | .stuck | .exhausted => False

/-- Such a run was not broken off in the middle of what it did. -/
def Calm {α : Type} : Except Raised α → Prop
  | .ok _ => True
  | .error raised => Mild raised

instance : DecidablePred Mild
  | .failed _ | .panicked _ => isTrue trivial
  | .stuck | .exhausted => isFalse id

instance {α : Type} : DecidablePred (Calm : Except Raised α → Prop)
  | .ok _ => isTrue trivial
  | .error raised => inferInstanceAs (Decidable (Mild raised))

structure Passage (host : Nat) (owed : List Tick.Signal) (calm : Prop) (world after : World) : Prop where
  sound : Sound host after
  onward : Onward host owed world after
  settled : calm → Settled host world after

/-- The run has come from one world to another and goes on with what remains. -/
def Passes {α : Type} (host : Nat) (owed : List Tick.Signal) (origin world : World) (body : Run α) :
    Prop :=
  body.Ends world fun result after => Passage host owed (Calm result) origin after

variable {host : Nat} {owed more : List Tick.Signal} {calm : Prop} {origin world middle after : World}

/-- Nothing is owed when nothing happens. -/
theorem Onward.refl (world : World) : Onward host [] world world where
  since := List.suffix_rfl
  hosts := Nat.le_refl _
  slots := Nat.le_refl _
  lost _ _ out := out
  paid choose := by simp
  spent choose := Int.le_refl _

/-- What two stretches owe adds up. -/
theorem Onward.trans (first : Onward host owed world middle) (second : Onward host more middle after) :
    Onward host (owed ++ more) world after where
  since := first.since.trans second.since
  hosts := Nat.le_trans first.hosts second.hosts
  slots := Nat.le_trans first.slots second.slots
  lost id inside out := second.lost id (Nat.lt_of_lt_of_le inside first.slots) (first.lost id inside out)
  paid choose := by
    have early := first.paid choose
    have late := second.paid choose
    rw [List.countP_append]
    omega
  spent choose := Int.le_trans (first.spent choose) (second.spent choose)

/-- Nothing is left half done when nothing happens. -/
theorem Settled.refl (world : World) : Settled host world world :=
  ⟨rfl, fun _ => rfl, fun _ loose => loose, fun strict => strict⟩

/-- Nothing is left half done by two settled stretches. -/
theorem Settled.trans (first : Settled host world middle) (second : Settled host middle after) :
    Settled host world after where
  locked := second.locked.trans first.locked
  busy id := (second.busy id).trans (first.busy id)
  loose id loose := first.loose id (second.loose id loose)
  strict strict := second.strict (first.strict strict)

/-- A sound world passes into itself. -/
theorem Passage.refl (sound : Sound host world) : Passage host [] calm world world :=
  ⟨sound, .refl world, fun _ => .refl world⟩

/-- A passage without condition is good for any. -/
theorem Passage.calmly (passage : Passage host owed calm world after) (holds : calm) :
    Passage host owed True world after :=
  ⟨passage.sound, passage.onward, fun _ => passage.settled holds⟩

/-- Two passages make one, which is calm if both are. -/
theorem Passage.both {further : Prop} (first : Passage host owed calm world middle)
    (second : Passage host more further middle after) :
    Passage host (owed ++ more) (calm ∧ further) world after :=
  ⟨second.sound, first.onward.trans second.onward,
    fun ends => (first.settled ends.1).trans (second.settled ends.2)⟩

/-- A settled passage may be followed by any other. -/
theorem Passage.trans (first : Passage host owed True world middle)
    (second : Passage host more calm middle after) : Passage host (owed ++ more) calm world after :=
  ⟨second.sound, first.onward.trans second.onward,
    fun ends => (first.settled trivial).trans (second.settled ends)⟩

/-- Hosts do not disappear. -/
theorem Passage.present (passage : Passage host owed calm world after) {id : Nat}
    (present : id < world.hosts.length) : id < after.hosts.length :=
  Nat.lt_of_lt_of_le present passage.onward.hosts

section Running

variable {α β : Type} {body : Run α} {next : α → Run β}

/-- Having come so far, a run may return. -/
theorem passes_pure (passage : Passage host owed True origin world) (value : α) :
    Passes host owed origin world (pure value : Run α) :=
  ⟨passage.sound, passage.onward, fun _ => passage.settled trivial⟩

/-- Having come so far, a run may be left. -/
theorem passes_throw (passage : Passage host owed True origin world) (raised : Raised) :
    Passes host owed origin world (throw raised : Run α) :=
  ⟨passage.sound, passage.onward, fun _ => passage.settled trivial⟩

/-- What a run does from here, it also does from where it came. -/
theorem Passes.start (rest : Passes host more middle world body)
    (passage : Passage host owed True origin middle) : Passes host (owed ++ more) origin world body :=
  Run.Ends.mono rest fun _ _ later => passage.trans later

/-- A run that was to owe more has owed enough. -/
theorem Passage.owe (passage : Passage host owed calm origin world) :
    Passage host (owed ++ more) calm origin world where
  sound := passage.sound
  settled := passage.settled
  onward :=
    { passage.onward with
      paid := fun choose => by
        have paid := passage.onward.paid choose
        rw [List.countP_append]
        omega }

/-- What two runs owe adds up when one follows the other. -/
theorem Passes.append (first : Passes host owed origin world body)
    (rest : ∀ value after, Passage host owed True origin after →
      Passes host (owed ++ more) origin after (next value)) :
    Passes host (owed ++ more) origin world (body >>= next) := by
  unfold Passes
  rw [Run.ends_bind]
  apply Run.Ends.mono first
  intro result after passage
  cases result with
  | ok value => exact rest value after passage
  | error raised => exact Passage.owe ⟨passage.sound, passage.onward, passage.settled⟩

/-- A run that owes nothing is followed by whatever may follow it. -/
theorem Passes.bind (first : Passes host [] origin world body)
    (rest : ∀ value after, Passage host [] True origin after →
      Passes host owed origin after (next value)) :
    Passes host owed origin world (body >>= next) :=
  first.append rest

/-- The run is owed what has been paid before. -/
theorem Passes.paid (rest : Passes host owed world world body) (first : Passage host [] True origin world)
    (paid : ∀ choose, balance host choose origin.journal + owed.countP choose ≤
      balance host choose world.journal) : Passes host [] origin world body := by
  apply Run.Ends.mono rest
  intro result after passage
  have whole := first.trans passage
  refine ⟨whole.sound, { whole.onward with paid := fun choose => ?_ }, whole.settled⟩
  have before := paid choose
  have later := passage.onward.paid choose
  simp only [List.countP_nil]
  omega

/-- A run whose value is dropped ends in the same way. -/
theorem ends_discard (post : Except Raised Unit → World → Prop) :
    (Functor.discard body).Ends world post ↔
      body.Ends world fun result after => post (result.map fun _ => ()) after := by
  unfold Run.Ends
  rw [Stateful.run_discard]
  rcases body.run.run world with ⟨result, after⟩
  cases result <;> rfl

/-- What a run returns may be dropped. -/
theorem Passes.discard (passes : Passes host owed origin world body) :
    Passes host owed origin world (Functor.discard body) := by
  unfold Passes
  rw [ends_discard]
  apply Run.Ends.mono passes
  intro result after passage
  cases result <;> exact passage

/-- A barrier does not keep a run from passing. -/
theorem Passes.isolate {body : Run Unit} (passes : Passes host owed origin world body) :
    Passes host owed origin world (Run.isolate body) := by
  unfold Passes Run.Ends at passes ⊢
  rw [Run.isolate_run]
  revert passes
  rcases body.run.run world with ⟨raised | value, after⟩
  · cases raised <;> exact id
  · exact id

/-- A run that is left early is taken up by its handler. -/
theorem Passes.tryCatch {handler : Raised → Run α} (passes : Passes host [] origin world body)
    (handled : ∀ raised after, Mild raised → Passage host [] True origin after →
      Passes host [] origin after (handler raised))
    (passed : ∀ raised, ¬ Mild raised → handler raised = throw raised) :
    Passes host [] origin world (tryCatch body handler) := by
  unfold Passes
  rw [Run.ends_tryCatch]
  apply Run.Ends.mono passes
  intro result after passage
  cases result with
  | ok value => exact passage
  | error raised =>
      rw [Run.caught_error]
      by_cases mild : Mild raised
      · exact handled raised after mild (passage.calmly mild)
      · rw [passed raised mild]
        exact passage

/-- Such a run returns, unless it is broken off. -/
def Sure (body : Run α) : Prop :=
  ∀ world raised, (body.run.run world).1 = .error raised → ¬ Mild raised

/-- A run that always returns is sure. -/
theorem sure_returns (returns : ∀ world, ∃ value, (body.run.run world).1 = .ok value) : Sure body := by
  intro world raised same
  obtain ⟨value, returned⟩ := returns world
  rw [returned] at same
  cases same

/-- Sure runs may follow each other. -/
theorem Sure.bind (first : Sure body) (rest : ∀ value, Sure (next value)) : Sure (body >>= next) := by
  intro world raised same
  rw [Stateful.run_bind] at same
  have early := first world
  revert same early
  rcases body.run.run world with ⟨other | value, after⟩
  · intro same early
    cases same
    exact early raised rfl
  · intro same _
    exact rest value after raised same

/-- A sure run remains so when its value is dropped. -/
theorem Sure.discard (sure : Sure body) : Sure (Functor.discard body) := by
  intro world raised same
  rw [Stateful.run_discard] at same
  have early := sure world
  revert same early
  rcases body.run.run world with ⟨other | value, after⟩
  · intro same early
    cases same
    exact early raised rfl
  · intro same
    cases same

/-- A barrier makes any run sure. -/
theorem sure_isolate (body : Run Unit) : Sure (Run.isolate body) := by
  intro world raised same
  rw [Run.isolate_run] at same
  revert same
  rcases (body.run.run world).1 with other | value
  · cases other <;> intro same <;> cases same <;> exact id
  · intro same
    cases same

/-- A passage holds under a stronger condition. -/
theorem Passage.weaken {further : Prop} (passage : Passage host owed calm world after)
    (implies : further → calm) : Passage host owed further world after :=
  ⟨passage.sound, passage.onward, fun holds => passage.settled (implies holds)⟩

/-- A sure run returns from a settled passage, or it is broken off. -/
theorem Passes.surely (passes : Passes host owed origin world body) (sure : Sure body) :
    body.Ends world fun result after =>
      (∃ value, result = .ok value ∧ Passage host owed True origin after) ∨
        ∃ raised, result = .error raised ∧ ¬ Mild raised ∧ Passage host owed False origin after := by
  have wrecked := sure world
  unfold Passes Run.Ends at passes
  unfold Run.Ends
  revert passes wrecked
  rcases body.run.run world with ⟨raised | value, after⟩
  · intro passage wrecked
    exact Or.inr ⟨raised, rfl, wrecked raised rfl, passage.weaken False.elim⟩
  · intro passage _
    exact Or.inl ⟨value, rfl, passage⟩

/-- What finishes a run passes from any world in which the run was left. -/
theorem Passes.afterwards {finish : Run Unit} (passes : Passes host [] origin world body)
    (sure : Sure finish)
    (rest : ∀ after, Sound host after → origin.hosts.length ≤ after.hosts.length →
      Passes host [] after after finish) :
    Passes host [] origin world (Run.afterwards body finish) := by
  have finished : ∀ (raised : Raised) (after : World), Passage host [] (Mild raised) origin after →
      Passes host [] origin after (do finish; throw raised : Run α) := by
    intro raised after passage
    unfold Passes
    rw [Run.ends_bind]
    apply Run.Ends.mono ((rest after passage.sound passage.onward.hosts).surely sure)
    intro result last ends
    rcases ends with ⟨_, rfl, done⟩ | ⟨worse, rfl, wrecked, done⟩
    · exact (passage.both done).weaken fun mild => ⟨mild, trivial⟩
    · exact (passage.both done).weaken fun mild => absurd mild wrecked
  rw [Run.afterwards_eq]
  unfold Passes
  rw [Run.ends_tryCatch, Run.ends_bind]
  apply Run.Ends.mono passes
  intro result after passage
  cases result with
  | error raised => exact finished raised after passage
  | ok value =>
      rw [Run.followed_ok, Run.ends_bind]
      apply Run.Ends.mono ((rest after passage.sound passage.onward.hosts).surely sure)
      intro result last ends
      rcases ends with ⟨_, rfl, done⟩ | ⟨worse, rfl, wrecked, done⟩
      · exact passage.both done |>.weaken fun _ => ⟨trivial, trivial⟩
      · rw [Run.followed_error, Run.caught_error]
        exact finished worse last ((passage.both done).weaken fun mild => absurd mild wrecked)

end Running

end Shutdown

end ScriptHost.Session
