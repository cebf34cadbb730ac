/-
This file compares commands, hooks and worlds that differ only in which hooks end with a fault.
-/
import ScriptHost.Proofs.Session.Routine
import ScriptHost.Proofs.Session.Together

namespace ScriptHost.Session

/-- Both hooks do the same, and either may end with a fault. -/
inductive Hook.Like (alike : Command Operation → Command Operation → Prop) :
    Hook Operation → Hook Operation → Prop
  | intro {turn other : Nat → Turn Operation}
      (commands : ∀ calls, List.Forall₂ alike (turn calls).commands (other calls).commands) :
      Hook.Like alike ⟨turn⟩ ⟨other⟩

/-- Both hooks also end the same way. -/
inductive Hook.Same (alike : Command Operation → Command Operation → Prop) :
    Hook Operation → Hook Operation → Prop
  | intro {turn other : Nat → Turn Operation}
      (commands : ∀ calls, List.Forall₂ alike (turn calls).commands (other calls).commands)
      (endings : ∀ calls, (turn calls).ending = (other calls).ending) :
      Hook.Same alike ⟨turn⟩ ⟨other⟩

inductive SystemHooks.Like (alike : Command Operation → Command Operation → Prop) :
    SystemHooks Operation → SystemHooks Operation → Prop
  | intro {onTick onTick' shutdown shutdown' : Hook Operation} (ticks : Hook.Like alike onTick onTick')
      (ends : Hook.Like alike shutdown shutdown') :
      SystemHooks.Like alike ⟨onTick, shutdown⟩ ⟨onTick', shutdown'⟩

/-- A behaviour that fails to start is not updated, so starts have to end the same way. -/
inductive BehaviourHooks.Like (alike : Command Operation → Command Operation → Prop) :
    BehaviourHooks Operation → BehaviourHooks Operation → Prop
  | intro {attach attach' start start' update update' dispose dispose' : Hook Operation}
      (attaches : Hook.Like alike attach attach') (starts : Hook.Same alike start start')
      (updates : Hook.Like alike update update') (disposes : Hook.Like alike dispose dispose') :
      BehaviourHooks.Like alike ⟨attach, start, update, dispose⟩ ⟨attach', start', update', dispose'⟩

inductive Offer.Like (alike : Command Operation → Command Operation → Prop) :
    Offer Operation → Offer Operation → Prop
  | declined : Offer.Like alike .declined .declined
  | made {hooks others : BehaviourHooks Operation} (like : BehaviourHooks.Like alike hooks others) :
      Offer.Like alike (.made hooks) (.made others)
  | panic (message : String) : Offer.Like alike (.panic message) (.panic message)

/-- Factories do the same, and they panic or make behaviours in the same cases. -/
inductive Factory.Like (alike : Command Operation → Command Operation → Prop) :
    Factory Operation → Factory Operation → Prop
  | intro {ask other : String → Asked Operation}
      (commands : ∀ script, List.Forall₂ alike (ask script).commands (other script).commands)
      (offers : ∀ script, Offer.Like alike (ask script).offer (other script).offer) :
      Factory.Like alike ⟨ask⟩ ⟨other⟩

/-- Commands are alike if they are the same up to faults of the hooks that they bring. -/
inductive Command.Alike : Command Operation → Command Operation → Prop
  | same (command : Command Operation) : Command.Alike command command
  | subscribe (title host : String) (kind : Event.Kind) (name : String) {hook other : Hook Operation}
      (like : Hook.Like Command.Alike hook other) :
      Command.Alike ⟨title, host, .subscribe kind name hook⟩ ⟨title, host, .subscribe kind name other⟩
  | subscribeRaw (title host event name : String) {hook other : Hook Operation}
      (like : Hook.Like Command.Alike hook other) :
      Command.Alike ⟨title, host, .subscribeRaw event name hook⟩
        ⟨title, host, .subscribeRaw event name other⟩
  | addListener (title host name : String) {hook other : Hook Operation}
      (like : Hook.Like Command.Alike hook other) :
      Command.Alike ⟨title, host, .addListener name hook⟩ ⟨title, host, .addListener name other⟩
  | registerSystem (title host : String) (kind : Nat) (name : String)
      {hooks others : SystemHooks Operation} (like : SystemHooks.Like Command.Alike hooks others) :
      Command.Alike ⟨title, host, .registerSystem kind name hooks⟩
        ⟨title, host, .registerSystem kind name others⟩
  | registerBehaviour (title host : String) (entity : EntityName) (script name : String)
      {hooks others : BehaviourHooks Operation}
      (like : BehaviourHooks.Like Command.Alike hooks others) :
      Command.Alike ⟨title, host, .registerBehaviour entity script name hooks⟩
        ⟨title, host, .registerBehaviour entity script name others⟩
  | setBinder (title host : String) (cap : Option Nat) {factories others : List (Factory Operation)}
      (like : List.Forall₂ (Factory.Like Command.Alike) factories others) :
      Command.Alike ⟨title, host, .setBinder factories cap⟩ ⟨title, host, .setBinder others cap⟩
  | newRuntime (title host : String) (settings : Option Json.Form) (base : File.Pathname)
      {factories others : List (Factory Operation)}
      (like : List.Forall₂ (Factory.Like Command.Alike) factories others) :
      Command.Alike ⟨title, host, .newRuntime settings base factories⟩
        ⟨title, host, .newRuntime settings base others⟩

/-- Commands are alike to themselves. -/
theorem Command.alike_refl (commands : List (Command Operation)) :
    List.Forall₂ Command.Alike commands commands :=
  List.forall₂_same.mpr fun command _ => .same command

namespace Hook

variable {hook other : Hook Operation}

/-- A hook is like itself. -/
theorem Like.refl (hook : Hook Operation) : Hook.Like Command.Alike hook hook :=
  .intro fun _ => Command.alike_refl _

/-- A hook is the same as itself. -/
theorem Same.refl (hook : Hook Operation) : Hook.Same Command.Alike hook hook :=
  .intro (fun _ => Command.alike_refl _) fun _ => rfl

/-- Hooks that are like each other have commands that are alike at each call. -/
theorem Like.turn (like : Hook.Like Command.Alike hook other) (calls : Nat) :
    List.Forall₂ Command.Alike (hook.turn calls).commands (other.turn calls).commands := by
  cases like with
  | intro commands => exact commands calls

/-- Hooks that are the same are like each other. -/
theorem Same.like (same : Hook.Same Command.Alike hook other) : Hook.Like Command.Alike hook other := by
  cases same with
  | intro commands endings => exact .intro commands

/-- Hooks that are the same end in the same way. -/
theorem Same.ending (same : Hook.Same Command.Alike hook other) (calls : Nat) :
    (hook.turn calls).ending = (other.turn calls).ending := by
  cases same with
  | intro commands endings => exact endings calls

/-- Hooks stay like each other when failures are turned into panics. -/
theorem Like.panicking (like : Hook.Like Command.Alike hook other) :
    Hook.Like Command.Alike hook.panicking other.panicking := by
  cases like with
  | intro commands => exact .intro commands

end Hook

/-- The hooks of a system are like themselves. -/
theorem SystemHooks.Like.refl (hooks : SystemHooks Operation) :
    SystemHooks.Like Command.Alike hooks hooks :=
  .intro (.refl _) (.refl _)

/-- The hooks of a behaviour are like themselves. -/
theorem BehaviourHooks.Like.refl (hooks : BehaviourHooks Operation) :
    BehaviourHooks.Like Command.Alike hooks hooks :=
  .intro (.refl _) (.refl _) (.refl _) (.refl _)

/-- An offer is like itself. -/
theorem Offer.Like.refl (offer : Offer Operation) : Offer.Like Command.Alike offer offer := by
  cases offer with
  | declined => exact .declined
  | made hooks => exact .made (.refl hooks)
  | panic message => exact .panic message

/-- A factory is like itself. -/
theorem Factory.Like.refl (factory : Factory Operation) : Factory.Like Command.Alike factory factory :=
  .intro (fun _ => Command.alike_refl _) fun _ => .refl _

/-- Factories are like themselves. -/
theorem Factory.like_refl (factories : List (Factory Operation)) :
    List.Forall₂ (Factory.Like Command.Alike) factories factories :=
  List.forall₂_same.mpr fun factory _ => .refl factory

structure Hooked.Alike (hooked other : Hooked) : Prop where
  id : hooked.id = other.id
  label : hooked.label = other.label
  hook : Hook.Like Command.Alike hooked.hook other.hook

structure Hooked.Same (hooked other : Hooked) : Prop where
  id : hooked.id = other.id
  label : hooked.label = other.label
  hook : Hook.Same Command.Alike hooked.hook other.hook

inductive Handler.Alike : Handler → Handler → Prop
  | hook {hooked other : Hooked} (alike : hooked.Alike other) : Handler.Alike (.hook hooked) (.hook other)
  | source (host : Nat) : Handler.Alike (.source host) (.source host)

inductive Listener.Alike : Listener → Listener → Prop
  | hook {hooked other : Hooked} (alike : hooked.Alike other) : Listener.Alike (.hook hooked) (.hook other)
  | scheduler (host : Nat) (journalName : Option String) :
      Listener.Alike (.scheduler host journalName) (.scheduler host journalName)

structure SystemLogic.Alike (logic other : SystemLogic) : Prop where
  onTick : logic.onTick.Alike other.onTick
  shutdown : logic.shutdown.Alike other.shutdown

inductive BehaviourLogic.Alike : BehaviourLogic → BehaviourLogic → Prop
  | hooked {attach attach' start start' update update' dispose dispose' : Hooked}
      (attaches : attach.Alike attach') (starts : start.Same start') (updates : update.Alike update')
      (disposes : dispose.Alike dispose') :
      BehaviourLogic.Alike (.hooked attach start update dispose) (.hooked attach' start' update' dispose')
  | scripted (unit : Script.CompiledUnit) (subject : Script.Value) :
      BehaviourLogic.Alike (.scripted unit subject) (.scripted unit subject)

namespace Scheduler

inductive AlikeReceivers : Receiver → Receiver → Prop
  | system (kind : Nat) {logic other : SystemLogic} (alike : logic.Alike other) :
      AlikeReceivers (.system kind logic) (.system kind other)
  | behaviour (entity : Entity) (script : String) {logic other : BehaviourLogic}
      (alike : logic.Alike other) :
      AlikeReceivers (.behaviour entity script logic) (.behaviour entity script other)

structure AlikeSlots (slot other : Slot) : Prop where
  receiver : AlikeReceivers slot.receiver other.receiver
  started : slot.started = other.started
  phase : slot.phase = other.phase
  busy : slot.busy = other.busy

structure AlikeRegistries (registry other : Registry) : Prop where
  slots : List.Forall₂ AlikeSlots registry.slots other.slots
  registered : registry.registered = other.registered
  locked : registry.locked = other.locked

end Scheduler

namespace Events

structure AlikeListenings (listening other : Tick.Listening Listener) : Prop where
  id : listening.id = other.id
  listener : listening.listener.Alike other.listener

structure AlikeSources (source other : Tick.Source Listener) : Prop where
  subscription : source.subscription = other.subscription
  listeners : List.Forall₂ AlikeListenings source.listeners other.listeners
  count : source.count = other.count
  clock : source.clock = other.clock

structure AlikeSubscriptions (subscription other : Event.Subscription Handler) : Prop where
  id : subscription.id = other.id
  handler : subscription.handler.Alike other.handler

/-- The names of a table stand in the same order. -/
structure AlikeRows {Key : Type} (row other : Key × List (Event.Subscription Handler)) : Prop where
  key : row.1 = other.1
  held : List.Forall₂ AlikeSubscriptions row.2 other.2

structure AlikeBridges (bridge other : Event.Bridge Handler) : Prop where
  next : bridge.next = other.next
  typed : List.Forall₂ AlikeRows bridge.typed other.typed
  raw : List.Forall₂ AlikeRows bridge.raw other.raw
  dropped : bridge.dropped = other.dropped

end Events

structure Host.Alike (host other : Host) : Prop where
  registry : Scheduler.AlikeRegistries host.registry other.registry
  source : Events.AlikeSources host.source other.source
  binder : host.binder = other.binder
  log : host.log = other.log
  runtime : host.runtime = other.runtime
  users : host.users = other.users
  named : host.named = other.named
  freed : host.freed = other.freed

structure FactoryState.Alike (state other : FactoryState) : Prop where
  factory : Factory.Like Command.Alike state.factory other.factory
  place : state.place = other.place
  made : state.made = other.made

/-- Reports of a tick may count different faults. -/
structure TickReport.Alike (report other : TickReport) : Prop where
  invoked : report.invoked = other.invoked
  units : report.units = other.units

inductive Answer.Alike : Answer → Answer → Prop
  | same (answer : Answer) : Answer.Alike answer answer
  | ticked {report other : TickReport} (alike : report.Alike other) :
      Answer.Alike (.ticked report) (.ticked other)

/-- Alike entries tell of the same call, or of the same end up to the fault. -/
inductive Entry.Alike : Entry → Entry → Prop
  | same (entry : Entry) : Entry.Alike entry entry
  | finished (hook : Nat) (arguments : Arguments) (ending other : Ending) :
      Entry.Alike (.finished hook arguments ending) (.finished hook arguments other)
  | answered (title : String) {answer other : Answer} (alike : answer.Alike other) :
      Entry.Alike (.answered title answer) (.answered title other)
  | ticked (name : String) {report other : TickReport} (alike : report.Alike other) :
      Entry.Alike (.ticked name report) (.ticked name other)
  | rejected (host : Nat) {receiver other : Receiver} (alike : Scheduler.AlikeReceivers receiver other) :
      Entry.Alike (.rejected host receiver) (.rejected host other)

def Entry.reports : Entry → Bool
  | .reported _ => true
  | _ => false

/-- What was reported is left out. -/
def spoken (journal : List Entry) : List Entry :=
  journal.filter fun entry => !entry.reports

/-- Alike worlds differ in the faults of their hooks, in what was reported, and in the faults that were
counted. -/
structure World.Alike (world other : World) : Prop where
  engine : world.engine = other.engine
  draws : world.draws = other.draws
  tree : world.tree = other.tree
  bridge : Events.AlikeBridges world.bridge other.bridge
  claimed : world.claimed = other.claimed
  hosts : List.Forall₂ Host.Alike world.hosts other.hosts
  factories : List.Forall₂ FactoryState.Alike world.factories other.factories
  threads : world.threads = other.threads
  names : world.names = other.names
  uses : world.uses = other.uses
  journal : List.Forall₂ Entry.Alike (spoken world.journal) (spoken other.journal)

end ScriptHost.Session
