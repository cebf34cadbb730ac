/-
This file says when tick sources are ready for their ticks, and shows that every command leaves them ready.
-/
import ScriptHost.Proofs.Session.Nesting
import ScriptHost.Proofs.Shutdown.Passages
import ScriptHost.Proofs.Tick.Wiring

namespace ScriptHost.Session

open Event (Bridge Subscription)

/-- These commands speak to a bridge and its tick sources only, and so do the hooks that they leave there. -/
inductive Ticks : Command Operation → Prop
  | say (title host text : String) : Ticks ⟨title, host, .say text⟩
  | setInterval (title host : String) (interval : Float32) : Ticks ⟨title, host, .setInterval interval⟩
  | subscribe (title host : String) (kind : Event.Kind) (name : String) (hook : Hook Operation)
      (ticks : ∀ calls, ∀ command ∈ (hook.turn calls).commands, Ticks command) :
      Ticks ⟨title, host, .subscribe kind name hook⟩
  | subscribeRaw (title host event name : String) (hook : Hook Operation)
      (ticks : ∀ calls, ∀ command ∈ (hook.turn calls).commands, Ticks command) :
      Ticks ⟨title, host, .subscribeRaw event name hook⟩
  | unsubscribe (title host event handle : String) : Ticks ⟨title, host, .unsubscribe event handle⟩
  | subscribers (title host event : String) : Ticks ⟨title, host, .subscribers event⟩
  | dropped (title host : String) : Ticks ⟨title, host, .dropped⟩
  | publish (title host : String) (event : Event.Builtin) : Ticks ⟨title, host, .publish event⟩
  | publishRaw (title host event : String) (payload : Event.Payload) :
      Ticks ⟨title, host, .publishRaw event payload⟩
  | decode (title host event : String) (payload : Event.Payload) : Ticks ⟨title, host, .decode event payload⟩
  | hookTicks (title host : String) : Ticks ⟨title, host, .hookTicks⟩
  | unhookTicks (title host : String) : Ticks ⟨title, host, .unhookTicks⟩
  | ticksHooked (title host : String) : Ticks ⟨title, host, .ticksHooked⟩
  | addListener (title host name : String) (hook : Hook Operation)
      (ticks : ∀ calls, ∀ command ∈ (hook.turn calls).commands, Ticks command) :
      Ticks ⟨title, host, .addListener name hook⟩
  | removeListener (title host handle : String) : Ticks ⟨title, host, .removeListener handle⟩
  | listeners (title host : String) : Ticks ⟨title, host, .listeners⟩
  | clock (title host : String) : Ticks ⟨title, host, .clock⟩

def Hooked.Ticking (hooked : Hooked) : Prop :=
  ∀ calls, ∀ command ∈ (hooked.hook.turn calls).commands, Ticks command

def Handler.Ticking : Handler → Prop
  | .hook hooked => hooked.Ticking
  | .source _ => True

def Listener.Ticking : Listener → Prop
  | .hook hooked => hooked.Ticking
  | .scheduler .. => False

/-- The listeners stand in the order in which their numbers were issued. -/
structure Listens (source : Tick.Source Listener) : Prop where
  ticking : ∀ listening ∈ source.listeners, listening.listener.Ticking
  ordered : (source.listeners.map Tick.Listening.id).Pairwise (· < ·)
  issued : ∀ listening ∈ source.listeners, listening.id ≤ source.count

namespace Listens

variable {source : Tick.Source Listener}

/-- A new source has no listeners to go wrong. -/
theorem empty : Listens .empty := ⟨nofun, .nil, nofun⟩

/-- Listeners do not mind what else changes about their source. -/
theorem beside {after : Tick.Source Listener} (listens : Listens source)
    (listeners : after.listeners = source.listeners) (count : after.count = source.count) : Listens after where
  ticking := listeners ▸ listens.ticking
  ordered := listeners ▸ listens.ordered
  issued := listeners ▸ count ▸ listens.issued

/-- A listener that comes stands last and has the next number. -/
theorem listen (listens : Listens source) {listener : Listener} (ticking : listener.Ticking) :
    Listens (source.listen listener).1 where
  ticking listening among := by
    rcases List.mem_append.mp among with old | new
    · exact listens.ticking listening old
    · rw [List.mem_singleton.mp new]
      exact ticking
  ordered := by
    rw [Tick.Source.listen, List.map_append]
    refine List.pairwise_append.mpr ⟨listens.ordered, List.pairwise_singleton _ _, ?_⟩
    intro old among new last
    obtain ⟨listening, held, rfl⟩ := List.mem_map.mp among
    rw [List.mem_singleton.mp last]
    exact Nat.lt_succ_of_le (listens.issued listening held)
  issued listening among := by
    rcases List.mem_append.mp among with old | new
    · exact Nat.le_succ_of_le (listens.issued listening old)
    · rw [List.mem_singleton.mp new]
      exact Nat.le_refl _

/-- Listeners that stay keep their order. -/
theorem dismiss (listens : Listens source) (id : Nat) : Listens (source.dismiss id) where
  ticking listening among := listens.ticking listening (List.mem_filter.mp among).1
  ordered := listens.ordered.sublist (List.filter_sublist.map Tick.Listening.id)
  issued listening among := listens.issued listening (List.mem_filter.mp among).1

end Listens

def Entry.signalFrom? (host : Nat) : Entry → Option Tick.Signal
  | .broadcast place signal => if place = host then some signal else none
  | _ => none

/-- The signal of the latest broadcast stands first. -/
def broadcasts (host : Nat) (journal : List Entry) : List Tick.Signal :=
  journal.filterMap (Entry.signalFrom? host)

/-- A broadcast of the host becomes its latest. -/
theorem broadcasts_own (host : Nat) (signal : Tick.Signal) (journal : List Entry) :
    broadcasts host (.broadcast host signal :: journal) = signal :: broadcasts host journal :=
  List.filterMap_cons_some (if_pos rfl)

/-- Other entries leave the broadcasts of the host as they are. -/
theorem broadcasts_without {host : Nat} {entry : Entry} (other : entry.signalFrom? host = none)
    (journal : List Entry) : broadcasts host (entry :: journal) = broadcasts host journal :=
  List.filterMap_cons_none other

def World.sourceOf (world : World) (host : Nat) : Tick.Source Listener :=
  (world.hostOf host).source

/-- The sources are subscribed as they say, and their clocks tell of the broadcasts that the journal holds. -/
structure Ready (world : World) : Prop where
  housed : ∀ name, (world.names.hosts.lookup name).getD 0 < world.hosts.length
  freed : ∀ host, (world.hostOf host).freed = false
  wired : Wired (world.bridge.typed.under .logicTick) world.bridge.next fun host => (world.sourceOf host).subscription
  apart : ∀ entry ∈ world.names.handles, ∀ id, entry.2 = .subscription id →
    id < world.bridge.next ∧ ∀ host, (world.sourceOf host).subscription ≠ some id
  typed : ∀ kind, ∀ subscription ∈ world.bridge.typed.under kind, subscription.handler.Ticking
  raw : ∀ name, ∀ subscription ∈ world.bridge.raw.under name, subscription.handler.Ticking
  listening : ∀ host, Listens (world.sourceOf host)
  seen : ∀ host, host < world.hosts.length →
    (world.sourceOf host).clock.seen = (broadcasts host world.journal).length
  last : ∀ host, host < world.hosts.length →
    (world.sourceOf host).clock.last = (broadcasts host world.journal).head?

/-- Sources are ready in a new world, where nobody is subscribed. -/
theorem create_ready (tree : File.Tree) (draws : Script.Draws) : Ready (World.create tree draws) := by
  have core (host : Nat) : (World.create tree draws).hostOf host = .core := by
    cases host <;> rfl
  have empty (host : Nat) : (World.create tree draws).sourceOf host = .empty := congrArg Host.source (core host)
  refine ⟨fun _ => Nat.one_pos, fun host => ?_, ⟨fun host => ?_, List.nodup_nil, nofun⟩, nofun, nofun, nofun,
    fun host => ?_, fun host _ => ?_, fun host _ => ?_⟩
  · rw [core]
    rfl
  all_goals rw [empty]
  · rfl
  · exact .empty
  · rfl
  · rfl

/-- Only a host that is there has hooked its source. -/
theorem present_of_subscription {world : World} {host id : Nat} (keeps : (world.sourceOf host).subscription = some id) :
    host < world.hosts.length := by
  refine Nat.lt_of_not_le fun beyond => ?_
  rw [World.sourceOf, World.hostOf, List.getElem?_eq_none beyond] at keeps
  cases keeps

namespace Ready

variable {world after : World} {host : Nat} (ready : Ready world)

include ready

/-- What is neither of the bridge nor of the sources makes no difference. -/
theorem beside (hosts : after.hosts = world.hosts) (bridge : after.bridge = world.bridge)
    (names : after.names = world.names)
    (silent : ∀ host, broadcasts host after.journal = broadcasts host world.journal) : Ready after := by
  have same (host : Nat) : after.hostOf host = world.hostOf host := by rw [World.hostOf, hosts, World.hostOf]
  have source (host : Nat) : after.sourceOf host = world.sourceOf host := congrArg Host.source (same host)
  refine ⟨?_, fun host => ?_, ?_, ?_, ?_, ?_, fun host => ?_, fun host present => ?_, fun host present => ?_⟩
  · rw [names, hosts]
    exact ready.housed
  · rw [same]
    exact ready.freed host
  · simp only [bridge, source]
    exact ready.wired
  · simp only [names, bridge, source]
    exact ready.apart
  · rw [bridge]
    exact ready.typed
  · rw [bridge]
    exact ready.raw
  · rw [source]
    exact ready.listening host
  · rw [source, silent]
    exact ready.seen host (hosts ▸ present)
  · rw [source, silent]
    exact ready.last host (hosts ▸ present)

/-- Subscriptions that come and go leave the sources ready as long as these are wired. -/
theorem rebridge {bridge : Bridge Handler} (issues : world.bridge.next ≤ bridge.next)
    (wired : Wired (bridge.typed.under .logicTick) bridge.next fun host => (world.sourceOf host).subscription)
    (typed : ∀ kind, ∀ subscription ∈ bridge.typed.under kind, subscription.handler.Ticking)
    (raw : ∀ name, ∀ subscription ∈ bridge.raw.under name, subscription.handler.Ticking) :
    Ready { world with bridge } where
  housed := ready.housed
  freed := ready.freed
  wired := wired
  apart entry among id same := by
    obtain ⟨before, away⟩ := ready.apart entry among id same
    exact ⟨Nat.lt_of_lt_of_le before issues, away⟩
  typed := typed
  raw := raw
  listening := ready.listening
  seen := ready.seen
  last := ready.last

/-- A source that changes is ready if its subscription is wired and its clock tells of its broadcasts. -/
theorem resource {source : Tick.Source Listener} (present : host < world.hosts.length)
    (hosts : after.hosts = (world.putHost host { world.hostOf host with source }).hosts)
    (names : after.names = world.names) (issues : world.bridge.next ≤ after.bridge.next)
    (wired : Wired (after.bridge.typed.under .logicTick) after.bridge.next fun place =>
      if place = host then source.subscription else (world.sourceOf place).subscription)
    (fresh : ∀ id < world.bridge.next, source.subscription = some id → (world.sourceOf host).subscription = some id)
    (typed : ∀ kind, ∀ subscription ∈ after.bridge.typed.under kind, subscription.handler.Ticking)
    (raw : ∀ name, ∀ subscription ∈ after.bridge.raw.under name, subscription.handler.Ticking)
    (listening : Listens source)
    (elsewhere : ∀ place, place ≠ host → broadcasts place after.journal = broadcasts place world.journal)
    (seen : source.clock.seen = (broadcasts host after.journal).length)
    (last : source.clock.last = (broadcasts host after.journal).head?) : Ready after := by
  have state (place : Nat) :
      after.hostOf place = if place = host then { world.hostOf host with source } else world.hostOf place := by
    rw [← World.putHost_hostOf present]
    exact congrArg (fun states : List Host => (states[place]?).getD .core) hosts
  have current (place : Nat) : after.sourceOf place = if place = host then source else world.sourceOf place := by
    rw [World.sourceOf, state]
    split <;> rfl
  have length : after.hosts.length = world.hosts.length := by rw [hosts, World.putHost_length]
  refine ⟨fun name => ?_, fun place => ?_, ?_, ?_, typed, raw, fun place => ?_, fun place here => ?_,
    fun place here => ?_⟩
  · rw [names, length]
    exact ready.housed name
  · rw [state]
    split
    · exact ready.freed host
    · exact ready.freed place
  · simp only [current, apply_ite Tick.Source.subscription]
    exact wired
  · intro entry among id same
    obtain ⟨before, away⟩ := ready.apart entry (names ▸ among) id same
    refine ⟨Nat.lt_of_lt_of_le before issues, fun place => ?_⟩
    rw [current]
    split
    · exact fun keeps => away host (fresh id before keeps)
    · exact away place
  · rw [current]
    split
    · exact listening
    · exact ready.listening place
  · rw [current]
    split
    · next same => exact same ▸ seen
    · next other =>
        rw [elsewhere place other]
        exact ready.seen place (length ▸ here)
  · rw [current]
    split
    · next same => exact same ▸ last
    · next other =>
        rw [elsewhere place other]
        exact ready.last place (length ▸ here)

/-- A source that keeps the number it had is wired as before. -/
theorem rewired {subscription : Option Nat} (same : subscription = (world.sourceOf host).subscription) :
    Wired (world.bridge.typed.under .logicTick) world.bridge.next fun place =>
      if place = host then subscription else (world.sourceOf place).subscription := by
  have equal : (fun place => if place = host then subscription else (world.sourceOf place).subscription) =
      fun place => (world.sourceOf place).subscription := by
    funext place
    split
    · next here => rw [here, same]
    · rfl
  exact equal ▸ ready.wired

/-- A source may change its listeners. -/
theorem relisten {source : Tick.Source Listener} (present : host < world.hosts.length) (listening : Listens source)
    (subscription : source.subscription = (world.sourceOf host).subscription)
    (clock : source.clock = (world.sourceOf host).clock) :
    Ready (world.putHost host { world.hostOf host with source }) := by
  refine ready.resource present rfl rfl (Nat.le_refl _) (ready.rewired subscription) ?_ ready.typed ready.raw listening
    (fun _ _ => rfl) ?_ ?_
  · exact fun id _ keeps => subscription ▸ keeps
  · rw [clock]
    exact ready.seen host present
  · rw [clock]
    exact ready.last host present

/-- A clock that takes a signal tells of one more broadcast. -/
theorem struck (present : host < world.hosts.length) (signal : Tick.Signal) :
    Ready ((world.putHost host { world.hostOf host with
      source := { world.sourceOf host with clock := (world.sourceOf host).clock.advance signal } }).note
        (.broadcast host signal)) := by
  refine ready.resource present rfl rfl (Nat.le_refl _) (ready.rewired rfl) (fun _ _ keeps => keeps) ready.typed
    ready.raw ((ready.listening host).beside rfl rfl) (fun place other => ?_) ?_ ?_
  · have elsewhere : (Entry.broadcast host signal).signalFrom? place = none := if_neg (Ne.symm other)
    exact broadcasts_without elsewhere world.journal
  · exact (congrArg Nat.succ (ready.seen host present)).trans
      (congrArg List.length (broadcasts_own host signal world.journal)).symm
  · exact (congrArg List.head? (broadcasts_own host signal world.journal)).symm

section Subscriptions

/-- A payload that is dropped is no matter of the sources. -/
theorem dropped : Ready { world with bridge := world.bridge.drop } :=
  ready.rebridge (Nat.le_refl _) ready.wired ready.typed ready.raw

/-- A subscriber to a kind of event may come. -/
theorem subscribed {hooked : Hooked} (ticking : hooked.Ticking) (kind : Event.Kind) :
    Ready { world with bridge := (world.bridge.subscribe kind (.hook hooked)).1 } := by
  refine ready.rebridge (Nat.le_succ _) ?_ (fun other subscription => ?_) ready.raw
  · simp only [Bridge.subscribe, Event.Table.under_add]
    split
    · refine ready.wired.grow (.hook hooked) fun place => ?_
      have other : ¬ (Handler.hook hooked).isSource place := Bool.false_ne_true
      rw [if_neg other, List.append_nil]
    · exact ready.wired.skip
  · simp only [Bridge.subscribe, Event.Table.under_add]
    split
    · intro among
      rcases List.mem_append.mp among with old | new
      · exact ready.typed other subscription old
      · rw [List.mem_singleton.mp new]
        exact ticking
    · exact ready.typed other subscription

/-- A subscriber to raw payloads may come. -/
theorem subscribedRaw {hooked : Hooked} (ticking : hooked.Ticking) (event : String) :
    Ready { world with bridge := (world.bridge.subscribeRaw event (.hook hooked)).1 } := by
  refine ready.rebridge (Nat.le_succ _) ready.wired.skip ready.typed fun other subscription => ?_
  simp only [Bridge.subscribeRaw, Event.Table.under_add]
  split
  · intro among
    rcases List.mem_append.mp among with old | new
    · exact ready.raw other subscription old
    · rw [List.mem_singleton.mp new]
      exact ticking
  · exact ready.raw other subscription

/-- Whoever gives up a subscription that no source keeps cuts no source off. -/
theorem unsubscribed (event : String) {id : Nat} (apart : ∀ host, (world.sourceOf host).subscription ≠ some id) :
    Ready { world with bridge := (world.bridge.unsubscribe event id).1 } := by
  refine ready.rebridge (Nat.le_of_eq (Bridge.unsubscribe_next ..).symm) ?_ (fun kind subscription among => ?_)
    fun name subscription among => ready.raw name subscription ((Bridge.unsubscribe_raw_under ..).subset among)
  · rw [Bridge.unsubscribe_next, Bridge.unsubscribe_typed_under]
    split
    · refine ready.wired.drop id fun place => ?_
      refine (List.filter_eq_self.mpr fun kept among => ?_).symm
      rw [bne_iff_ne]
      rintro rfl
      exact apart place (Option.mem_toList.mp among)
    · exact ready.wired
  · rw [Bridge.unsubscribe_typed_under] at among
    split at among
    · exact ready.typed kind subscription (List.mem_filter.mp among).1
    · exact ready.typed kind subscription among

/-- A source that hooks itself keeps the number of its new subscription. -/
theorem hooked (present : host < world.hosts.length) (free : (world.sourceOf host).subscription = none) :
    Ready { world.putHost host { world.hostOf host with
      source := { world.sourceOf host with subscription := some world.bridge.next } } with
        bridge := (world.bridge.subscribe .logicTick (.source host)).1 } := by
  refine ready.resource present rfl rfl (Nat.le_succ _) ?_ (fun id before keeps => ?_)
    (fun kind subscription among => ?_) ready.raw ((ready.listening host).beside rfl rfl) (fun _ _ => rfl)
    (ready.seen host present) (ready.last host present)
  · simp only [Bridge.subscribe, Event.Table.under_add, if_true]
    refine ready.wired.grow (.source host) fun place => ?_
    by_cases here : place = host
    · subst here
      rw [if_pos rfl, if_pos (Handler.isSource_iff.mpr rfl), free]
      rfl
    · have other : ¬ (Handler.source host).isSource place := fun own =>
        here (Handler.source.inj (Handler.isSource_iff.mp own)).symm
      rw [if_neg here, if_neg other, List.append_nil]
  · exact absurd (Option.some.inj keeps) (Nat.ne_of_gt before)
  · simp only [Bridge.subscribe, Event.Table.under_add] at among
    split at among
    · rcases List.mem_append.mp among with old | new
      · exact ready.typed kind subscription old
      · rw [List.mem_singleton.mp new]
        exact trivial
    · exact ready.typed kind subscription among

/-- A source that unhooks itself gives up its number with its subscription. -/
theorem unhooked {id : Nat} (keeps : (world.sourceOf host).subscription = some id) :
    Ready { world.putHost host { world.hostOf host with
      source := { world.sourceOf host with subscription := none } } with
        bridge := (world.bridge.unsubscribe Event.Kind.logicTick.name id).1 } := by
  have present := present_of_subscription keeps
  refine ready.resource present rfl rfl (Nat.le_of_eq (Bridge.unsubscribe_next ..).symm) ?_ nofun
    (fun kind subscription among => ?_)
    (fun name subscription among => ready.raw name subscription ((Bridge.unsubscribe_raw_under ..).subset among))
    ((ready.listening host).beside rfl rfl) (fun _ _ => rfl) (ready.seen host present) (ready.last host present)
  · simp only [Bridge.unsubscribe_next, Bridge.unsubscribe_typed_under, if_true]
    refine ready.wired.drop id fun place => ?_
    by_cases here : place = host
    · subst here
      rw [if_pos rfl, keeps, Option.toList_some, List.filter_cons_of_neg (by simp)]
      rfl
    · rw [if_neg here]
      refine (List.filter_eq_self.mpr fun kept among => ?_).symm
      rw [bne_iff_ne]
      rintro rfl
      exact here (ready.wired.kept_once (Option.mem_toList.mp among) keeps)
  · simp only [Bridge.unsubscribe_typed_under] at among
    split at among
    · exact ready.typed kind subscription (List.mem_filter.mp among).1
    · exact ready.typed kind subscription among

end Subscriptions

/-- A name may be given to a subscription that is no source's own. -/
theorem named (name : String) (handle : Handle)
    (apart : ∀ id, handle = .subscription id → id < world.bridge.next ∧
      ∀ host, (world.sourceOf host).subscription ≠ some id) :
    Ready { world with names := { world.names with handles := (name, handle) :: world.names.handles } } where
  housed := ready.housed
  freed := ready.freed
  wired := ready.wired
  apart entry among id same := by
    rcases List.mem_cons.mp among with rfl | old
    · exact apart id same
    · exact ready.apart entry old id same
  typed := ready.typed
  raw := ready.raw
  listening := ready.listening
  seen := ready.seen
  last := ready.last

end Ready

end ScriptHost.Session
