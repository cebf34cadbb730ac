/-
This file states what tick sources do over whole runs.
-/
import ScriptHost.Proofs.Shutdown.Runs
import ScriptHost.Proofs.Tick.Commands

namespace ScriptHost.Session

open Event (Subscription)
open Run (Returns)
open Shutdown (attempts)

variable {world : World}

/-- A run that shows something leaves the sources ready. -/
theorem Run.Shows.ready {α : Type} {body : Run α} {good : α → List Entry → Prop} (shows : body.Shows world good) :
    Ready (body.run.run world).2 := by
  obtain ⟨value, -, shown, kept, -⟩ | ⟨-, wrecked⟩ := Returns.cases shows
  · exact kept.ready
  · exact wrecked.ready

/-- A run that acts leaves the sources ready. -/
theorem Run.Acts.ready {body : Run Unit} {good : List Entry → Prop} (acts : body.Acts world good) :
    Ready (body.run.run world).2 := by
  unfold Run.Acts Run.Ends at acts
  revert acts
  rcases body.run.run world with ⟨raised | value, after⟩
  · cases raised with
    | failed causes | panicked message => exact fun ⟨_, _, _, kept, _⟩ => kept.ready
    | stuck => exact False.elim
    | exhausted => exact Wrecked.ready
  · exact fun ⟨_, kept, _⟩ => kept.ready

/-- Attempts from outside leave the sources ready. -/
theorem attempts_ready (depth : Nat) {commands : List (Command Operation)} (ticks : ∀ command ∈ commands, Ticks command)
    (ready : Ready world) : Ready (attempts depth commands world).2 := by
  induction commands generalizing world with
  | nil => exact ready
  | cons command rest ih =>
      obtain ⟨own, others⟩ := List.forall_mem_cons.mp ticks
      exact ih others (Perform.ticks_shows (attentive_caller depth) ready own).ready

/-- Tick sources are ready in an empty world, and every command and every call of a hook leaves them ready, however it
ends and however deep it is nested. When they are ready, a source is subscribed once under the number that it keeps,
or not at all if it keeps none, its listeners stand in the order of their numbers, and its clock tells of the
broadcasts that have begun. A dispatch returns, unless hooks nest too deep. If it is of a well-sized tick and a source
is among its subscribers, the source broadcasts once; no other dispatch makes a source broadcast. -/
theorem sources_broadcast_ticks :
    (∀ tree draws depth commands, (∀ command ∈ commands, Ticks command) →
      Ready (attempts depth commands (World.create tree draws)).2) ∧
    ∀ depth world, Ready world →
      (∀ command, Ticks command → Ready ((Perform.perform (caller depth) command).run.run world).2) ∧
      (∀ hooked arguments, hooked.Ticking → Ready (((caller depth).hook hooked arguments).run.run world).2) ∧
      (∀ host, (sourced host (world.bridge.typed.under .logicTick)).map Subscription.id =
        (world.sourceOf host).subscription.toList) ∧
      (∀ host, ((world.sourceOf host).listeners.map Tick.Listening.id).Pairwise (· < ·)) ∧
      (∀ host < world.hosts.length,
        (world.sourceOf host).clock.seen = (broadcasts host world.journal).length ∧
        (world.sourceOf host).clock.last = (broadcasts host world.journal).head?) ∧
      ∀ name payload host, (Events.dispatch (caller depth) name payload).Ends world (Returns (fun _ after =>
        (Hears world host name payload → ∃ id before later middle last begun ended,
          Struck (caller depth) host id (Event.readWord payload 0) world after before later middle last begun ended) ∧
        (¬ Hears world host name payload → ∃ shown, Kept shown world after ∧ Silent host shown)) Ready) := by
  refine ⟨fun tree draws depth commands ticks => attempts_ready depth ticks (create_ready tree draws),
    fun depth world ready => ?_⟩
  have attentive := attentive_caller depth
  refine ⟨fun command ticks => (Perform.ticks_shows attentive ready ticks).ready,
    fun hooked arguments ticking => (attentive world hooked arguments ready ticking).ready, ready.wired.held,
    fun host => (ready.listening host).ordered, fun host present => ⟨ready.seen host present, ready.last host present⟩,
    fun name payload host => ?_⟩
  by_cases hears : Hears world host name payload
  · obtain ⟨rfl, sized, subscription, among, ours⟩ := id hears
    have strikes := Events.dispatch_strikes attentive sized (ready.wired.keeps among ours) ready
    exact (strikes.relax fun _ after struck => ⟨fun _ => ⟨_, struck⟩, fun deaf => absurd hears deaf⟩).excuse
      fun _ => Wrecked.ready
  · refine Run.Ends.excuse (Run.Ends.relax (Events.dispatch_shows attentive name payload ready)
      fun _ after ⟨shown, kept, due⟩ => ⟨fun heard => absurd heard hears, fun _ => ⟨shown, kept, ?_⟩⟩)
      fun _ => Wrecked.ready
    exact Classical.not_not.mp fun loud => hears (due host loud)

/-- The first call publishes another tick and then fails. -/
def echo : Hook Operation where
  turn calls :=
    if calls = 0 then ⟨[⟨"publish", "", .publish (.logicTick 8)⟩], .failure none "once is enough"⟩ else ⟨[], .normal⟩

/-- The echo speaks to the bridge only. -/
theorem echo_ticks (calls : Nat) : ∀ command ∈ (echo.turn calls).commands, Ticks command := by
  intro command among
  unfold echo at among
  dsimp only at among
  split at among
  · rw [List.mem_singleton.mp among]
    exact .publish _ _ _
  · cases among

def echoRun : List (Command Operation) :=
  [⟨"hook", "", .hookTicks⟩, ⟨"listen", "", .addListener "echo" echo⟩]

def echoing : World :=
  (attempts 4 echoRun (World.create ⟨[], []⟩ .lowest)).2

def echoed : Except Raised Event.Route × World :=
  (Events.dispatch (caller 4) Event.Kind.logicTick.name (Event.word 7)).run.run echoing

/-- The source broadcasts once at its own level although its listener makes it broadcast again. -/
theorem sources_broadcast_ticks_echoing :
    Ready echoing ∧ Hears echoing 0 Event.Kind.logicTick.name (Event.word 7) ∧ echoed.1 = .ok (.typed 1) ∧
      (broadcasts 0 echoed.2.journal).map Tick.Signal.index = [8, 7] ∧
      ∃ id before later middle last begun ended,
        Struck (caller 4) 0 id (Event.readWord (Event.word 7) 0) echoing echoed.2 before later middle last begun
          ended := by
  have hears : Hears echoing 0 Event.Kind.logicTick.name (Event.word 7) :=
    ⟨rfl, rfl, ⟨0, .source 0⟩, .head _, rfl⟩
  have ready : Ready echoing := by
    refine sources_broadcast_ticks.1 ⟨[], []⟩ .lowest 4 echoRun fun command among => ?_
    rcases List.mem_cons.mp among with rfl | among
    · exact .hookTicks _ _
    · rw [List.mem_singleton.mp among]
      exact .addListener _ _ _ echo echo_ticks
  have law : Returns _ _ echoed.1 echoed.2 :=
    (sources_broadcast_ticks.2 4 echoing ready).2.2.2.2.2 Event.Kind.logicTick.name (Event.word 7) 0
  have returned : echoed.1 = .ok (.typed 1) := rfl
  rw [returned] at law
  exact ⟨ready, hears, returned, by decide +kernel, law.1 hears⟩

end ScriptHost.Session
