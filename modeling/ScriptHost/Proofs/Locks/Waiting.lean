/-
This file states when a dispatch waits for itself.
-/
import ScriptHost.Proofs.Locks.Dispatches
import ScriptHost.Proofs.Shutdown.Runs

namespace ScriptHost.Session.Locks

open Shutdown (attempts still)

/-- Only hooks that stir entangle a journal. -/
theorem entangled_stirs {stirs : Nat → Nat → Prop} {opened : List Nat} {news : List Entry}
    (entangled : Entangled stirs opened news) : ∃ host hook, stirs host hook := by
  induction news generalizing opened with
  | nil => exact entangled.elim
  | cons entry rest ih =>
      cases entry with
      | tickBegan host signal =>
          rcases entangled with ⟨hook, -, stirred⟩ | entangled
          · exact ⟨host, hook, stirred⟩
          · exact ih entangled
      | _ => exact ih entangled

/-- However deep hooks nest, a dispatch that returns leaves every receiver as it was, and none of its ticks began while
a hook was open that one of the receivers of the same host has for its ticks. A dispatch that waits for itself has begun
such a tick, so no dispatch waits when these hooks publish nothing. All other dispatches nest hooks to the limit. -/
theorem dispatch_waits {world : World} {opened : List Nat}
    (scene : Scene (View.of world).Stirs opened (View.of world)) (depth : Nat) (name : String)
    (payload : Event.Payload) :
    (Events.dispatch (caller depth) name payload).Ends world fun result after => ∃ news, Adds world after news ∧
      ((∃ route, result = .ok route) ∧ View.of after = View.of world ∧ Balanced news ∧
          ¬ Entangled (View.of world).Stirs opened news ∨
        result = .error .stuck ∧ Entangled (View.of world).Stirs opened news ∧
          (∃ host hook, (View.of world).Stirs host hook) ∨
        result = .error .exhausted ∧ (openAfter opened news).length = opened.length + depth) := by
  refine Run.Ends.mono (dispatch_frees (caller_attends _ depth) scene name payload) fun result after ends => ?_
  rcases result with raised | route
  · obtain ⟨news, added, ⟨rfl, entangled⟩ | ⟨rfl, deep⟩⟩ := ends
    · exact ⟨news, added, .inr (.inl ⟨rfl, entangled, entangled_stirs entangled⟩)⟩
    · exact ⟨news, added, .inr (.inr ⟨rfl, deep⟩)⟩
  · obtain ⟨⟨view, news, added, balanced, untangled⟩, -⟩ := ends
    exact ⟨news, added, .inl ⟨⟨route, rfl⟩, view, balanced, untangled⟩⟩

/-- The first call publishes another tick. -/
def pulse : Hook Operation where
  turn calls := if calls = 0 then ⟨[⟨"publish", "", .publish (.logicTick 2)⟩], .normal⟩ else ⟨[], .normal⟩

def registerPulse (host : String) : Command Operation :=
  ⟨"register", host, .registerSystem 0 "pulse" ⟨pulse, still⟩⟩

def pulsing : World :=
  (attempts 4 [⟨"hook", "", .hookTicks⟩, ⟨"drive", "", .driveScheduler "drive"⟩, registerPulse ""]
    (World.create ⟨[], []⟩ .lowest)).2

def pulsePost : Post :=
  ⟨false, .live, [⟨0, "pulse.on_tick", pulse⟩]⟩

/-- The hook of the example publishes and does nothing else. -/
theorem pulse_publishes : Publishing ⟨0, "pulse.on_tick", pulse⟩ := by
  intro calls command among
  change command ∈ (pulse.turn calls).commands at among
  unfold pulse at among
  dsimp only at among
  split at among
  · rw [List.mem_singleton.mp among]
    exact .publish _ _ _
  · cases among

/-- The host of the example has one receiver and one listener. -/
theorem pulsing_outlook : (View.of pulsing).outlook 0 =
    ⟨[0], false, [pulsePost], [⟨1, .scheduler 0 (some "drive")⟩]⟩ := rfl

/-- There is no other host in the example. -/
theorem pulsing_core (place : Nat) : (View.of pulsing).outlook (place + 1) = Outlook.of .core := rfl

/-- In the example only the one receiver is served. -/
theorem pulsing_serves {host id : Nat} {post : Post} (serves : (View.of pulsing).Serves host id post) :
    host = 0 ∧ id = 0 ∧ post = pulsePost := by
  obtain ⟨registered, found⟩ := serves
  cases host with
  | zero =>
      rw [pulsing_outlook] at registered found
      obtain rfl := List.mem_singleton.mp registered
      exact ⟨rfl, rfl, (Option.some.inj found).symm⟩
  | succ place => cases pulsing_core place ▸ registered

/-- Only the source of the host hears of ticks, and only the scheduler hears of its broadcasts. -/
theorem pulsing_deaf (hooked : Hooked) : ¬ (View.of pulsing).Hears hooked := by
  rintro (⟨kind, subscription, among, ours⟩ | ⟨name, subscription, among, -⟩ | ⟨host, listening, among, ours⟩)
  · have typed : (View.of pulsing).typed = [(.logicTick, [⟨0, .source 0⟩])] := rfl
    rw [typed] at among
    unfold Event.Table.under at among
    split at among
    · rw [List.mem_singleton.mp among] at ours
      cases ours
    · cases among
  · cases among
  · cases host with
    | zero =>
        rw [pulsing_outlook] at among
        rw [List.mem_singleton.mp among] at ours
        cases ours
    | succ place => cases pulsing_core place ▸ among

/-- In the example every hook publishes, and nobody is held. -/
theorem pulsing_scene : Scene (View.of pulsing).Stirs [] (View.of pulsing) where
  stirs host number := Iff.rfl
  unlocked host := by cases host <;> rfl
  live host id post serves := by
    obtain ⟨-, -, rfl⟩ := pulsing_serves serves
    rfl
  held host id post serves busy := by
    obtain ⟨-, -, rfl⟩ := pulsing_serves serves
    cases busy
  holding host id post serves hooked among inside := by cases inside
  publishing host id post serves hooked among := by
    obtain ⟨-, -, rfl⟩ := pulsing_serves serves
    rw [List.mem_singleton.mp among]
    exact pulse_publishes
  heard hooked hears := absurd hears (pulsing_deaf hooked)
  apart host id post serves hooked among := by
    refine ⟨fun other hears => absurd hears (pulsing_deaf other), fun place other their standing another _ _ => ?_⟩
    obtain ⟨rfl, rfl, -⟩ := pulsing_serves serves
    obtain ⟨rfl, rfl, -⟩ := pulsing_serves standing
    exact ⟨rfl, rfl⟩

def pulsed : Except Raised Event.Route × World :=
  (Events.dispatch (caller 4) Event.Kind.logicTick.name (Event.word 1)).run.run pulsing

/-- The system publishes a tick of its own host during its turn. -/
theorem dispatch_waits_pulse : Scene (View.of pulsing).Stirs [] (View.of pulsing) ∧ pulsed.1 = .error .stuck ∧
    ∃ news, Adds pulsing pulsed.2 news ∧ Entangled (View.of pulsing).Stirs [] news := by
  have waits : pulsed.1 = .error .stuck := by decide +kernel
  obtain ⟨news, added, ⟨⟨route, returned⟩, -⟩ | ⟨-, entangled, -⟩ | ⟨exhausted, -⟩⟩ :=
    dispatch_waits pulsing_scene 4 Event.Kind.logicTick.name (Event.word 1)
  · cases waits.symm.trans returned
  · exact ⟨pulsing_scene, waits, news, added, entangled⟩
  · cases waits.symm.trans exhausted

def running : World :=
  (attempts 4 [⟨"new", "main", .newRuntime none ⟨""⟩ []⟩, ⟨"start", "main", .startRuntime⟩, registerPulse "main"]
    (World.create ⟨[], []⟩ .lowest)).2

def ran : Except Raised Event.Route × World :=
  (Events.dispatch (caller 4) Event.Kind.logicTick.name (Event.word 1)).run.run running

/-- The turn of the only receiver is under way when the tick that it published comes to it. -/
theorem nested_tick_waits :
    (running.hostOf 1).runtime.map Runtime.state = some .running ∧ ran.1 = .error .stuck ∧
      openAfter [] ran.2.journal.reverse = [0] ∧ (ran.2.registryOf 1).locked = false ∧
      (ran.2.registryOf 1).slots.map (fun slot => (slot.busy, (tickHooks slot.receiver).map Hooked.id)) =
        [(true, [0])] := by
  decide +kernel

end ScriptHost.Session.Locks
