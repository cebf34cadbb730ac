/-
This file shows that commands leave tick sources ready, however deep their hooks nest.
-/
import ScriptHost.Proofs.Tick.Broadcasts

namespace ScriptHost.Session

open Run (Enacts)

variable {world after : World}

/-- What changes neither the bridge nor the sources shows nothing. -/
theorem Kept.beside (ready : Ready world) (hosts : after.hosts = world.hosts) (bridge : after.bridge = world.bridge)
    (names : after.names = world.names) (journal : after.journal = world.journal) : Kept [] world after :=
  .still (ready.beside hosts bridge names fun _ => by rw [journal]) (by rw [hosts]) journal

/-- A subscription that a command makes is no source's own. -/
theorem Ready.apart_next (ready : Ready world) (host : Nat) :
    (world.sourceOf host).subscription ≠ some world.bridge.next := fun keeps =>
  Nat.lt_irrefl _ (ready.wired.kept_lt keeps)

namespace Perform

variable {call : Caller} {command : Command Operation}

section Subscriptions

variable {α : Type} {hook : Hook Operation} {next : Hooked → Run α}

/-- A hook that does nothing else than a command may do is registered. -/
theorem hooked_shows (label : String) (ticks : ∀ calls, ∀ command ∈ (hook.turn calls).commands, Ticks command)
    (ready : Ready world)
    (rest : ∀ hooked middle, hooked.Ticking → Ready middle → middle.hosts.length = world.hosts.length →
      (next hooked).Shows middle fun _ _ => True) :
    (Run.hooked label hook >>= next).Shows world fun _ _ => True := by
  have counted : Kept [] world (world.count (world.uses ++ [0])) := .beside ready rfl rfl rfl rfl
  exact .step rfl counted (rest ⟨world.uses.length, label, hook⟩ _ ticks counted.ready rfl)

/-- A subscriber to a kind of event leaves the sources ready. -/
theorem subscribe_shows (kind : Event.Kind) (name : String)
    (ticks : ∀ calls, ∀ command ∈ (hook.turn calls).commands, Ticks command) (ready : Ready world) :
    (subscribe kind name hook).Shows world fun _ _ => True := by
  refine hooked_shows name ticks ready fun hooked world ticking ready _ => ?_
  have named := (ready.subscribed ticking kind).named name (.subscription world.bridge.next) fun id same => by
    cases same
    exact ⟨Nat.lt_succ_self _, ready.apart_next⟩
  exact .of_run rfl (.still named rfl rfl) trivial

/-- A subscriber to raw payloads leaves the sources ready. -/
theorem subscribeRaw_shows (event name : String)
    (ticks : ∀ calls, ∀ command ∈ (hook.turn calls).commands, Ticks command) (ready : Ready world) :
    (subscribeRaw event name hook).Shows world fun _ _ => True := by
  refine hooked_shows name ticks ready fun hooked world ticking ready _ => ?_
  have told := Kept.reports ready (Events.rawRecords event)
  have named := (told.ready.subscribedRaw ticking event).named name (.subscription world.bridge.next) fun id same => by
    cases same
    exact ⟨Nat.lt_succ_self _, ready.apart_next⟩
  exact .of_run rfl (told.trans (.still named rfl rfl)) trivial

/-- A handle that is given up is not the subscription of a source. -/
theorem unsubscribe_shows (event handle : String) (ready : Ready world) :
    (withHandle handle subscription? fun id => do return .truth (← Events.unsubscribe event id)).Shows world
      fun _ _ => True := by
  refine .step rfl (.refl ready) ?_
  split
  · next id found =>
      obtain ⟨kept, held, same⟩ := Option.bind_eq_some_iff.mp found
      obtain ⟨before, rest, split, -⟩ := List.lookup_eq_some_iff.mp held
      have among : (handle, kept) ∈ world.names.handles := split ▸ List.mem_append_right _ (.head _)
      have own : kept = .subscription id := by
        cases kept <;> cases same
        rfl
      have gone := ready.unsubscribed event (ready.apart _ among id own).2
      exact .of_run rfl (.still gone rfl rfl) trivial
  · exact .of_run rfl (.refl ready) trivial

end Subscriptions

section Sources

variable {host : Nat}

/-- A source is hooked under a number that nobody else has. -/
theorem hookTicks_shows (present : host < world.hosts.length) (ready : Ready world) :
    (Events.hookTicks host).Shows world fun _ _ => True := by
  refine .step rfl (.refl ready) ?_
  split
  · exact .of_run rfl (.refl ready) trivial
  · next free => exact .of_run rfl (.still (ready.hooked present free) World.putHost_length rfl) trivial

/-- A source that is unhooked keeps no number. -/
theorem unhookTicks_shows (ready : Ready world) : (Events.unhookTicks host).Shows world fun _ _ => True := by
  refine .step rfl (.refl ready) ?_
  split
  · exact .of_run rfl (.refl ready) trivial
  · next id keeps => exact .of_run rfl (.still (ready.unhooked keeps) World.putHost_length rfl) trivial

/-- A listener that is added by name hears of the ticks after those that were there. -/
theorem addListener_shows {hooked : Hooked} (name : String) (ticking : hooked.Ticking)
    (present : host < world.hosts.length) (ready : Ready world) :
    (addListener host name (.hook hooked)).Shows world fun _ _ => True := by
  have listens := (ready.listening host).listen (show (Listener.hook hooked).Ticking from ticking)
  have named := (ready.relisten present listens rfl rfl).named name (.listener ((world.sourceOf host).count + 1)) nofun
  exact .of_run rfl (.still named World.putHost_length rfl) trivial

/-- A listener that is removed hears of no further ticks. -/
theorem removeListener_shows (handle : String) (present : host < world.hosts.length) (ready : Ready world) :
    (withHandle handle listener? fun id => do return .truth (← Events.dismiss host id)).Shows world
      fun _ _ => True := by
  refine .step rfl (.refl ready) ?_
  split
  · next id _ =>
      have relistened := ready.relisten present ((ready.listening host).dismiss id) rfl rfl
      exact .of_run rfl (.still relistened World.putHost_length rfl) trivial
  · exact .of_run rfl (.refl ready) trivial

end Sources

/-- An operation on the bridge or a source is carried out for the host that the command names. -/
theorem event_shows {title name : String} {operation : Operation}
    (same : ∀ place, operate call name place operation = eventOperation call place operation)
    (shows : ∀ place, place < world.hosts.length →
      (eventOperation call place operation).Shows world fun _ _ => True) (ready : Ready world) :
    (perform call ⟨title, name, operation⟩).Shows world fun _ _ => True := by
  refine .step rfl (.refl ready) ?_
  rw [same]
  exact shows _ (ready.housed name)

/-- A command shows the calls that it makes, and the sources stay ready. -/
theorem ticks_shows (attentive : Attentive call) (ready : Ready world) (ticks : Ticks command) :
    (perform call command).Shows world fun _ _ => True := by
  have idle (answer : Answer) : (pure answer : Run Answer).Shows world fun _ _ => True :=
    .of_run rfl (.refl ready) trivial
  have published (name : String) (payload : Event.Payload) :
      (do return .route (← Events.dispatch call name payload) : Run Answer).Shows world fun _ _ => True :=
    (Events.dispatch_shows attentive name payload ready).bind fun _ _ _ kept _ => .of_run rfl (.refl kept.ready) trivial
  cases ticks with
  | say title host text => exact .of_run rfl (.refl ready) trivial
  | setInterval title host interval =>
      exact event_shows (fun _ => rfl) (fun _ _ => .of_run rfl (.beside ready rfl rfl rfl rfl) trivial) ready
  | subscribe title host kind name hook ticks =>
      exact event_shows (fun _ => rfl) (fun _ _ => subscribe_shows kind name ticks ready) ready
  | subscribeRaw title host event name hook ticks =>
      exact event_shows (fun _ => rfl) (fun _ _ => subscribeRaw_shows event name ticks ready) ready
  | unsubscribe title host event handle =>
      exact event_shows (fun _ => rfl) (fun _ _ => unsubscribe_shows event handle ready) ready
  | subscribers | dropped | decode | ticksHooked | listeners | clock =>
      exact event_shows (fun _ => rfl) (fun _ _ => idle _) ready
  | publish title host event => exact event_shows (fun _ => rfl) (fun _ _ => published event.name event.encode) ready
  | publishRaw title host event payload => exact event_shows (fun _ => rfl) (fun _ _ => published event payload) ready
  | hookTicks title host =>
      exact event_shows (fun _ => rfl) (fun _ present => (hookTicks_shows present ready).bind fun _ _ _ kept _ =>
        .of_run rfl (.refl kept.ready) trivial) ready
  | unhookTicks title host =>
      exact event_shows (fun _ => rfl) (fun _ _ => (unhookTicks_shows ready).bind fun _ _ _ kept _ =>
        .of_run rfl (.refl kept.ready) trivial) ready
  | addListener title host name hook ticks =>
      exact event_shows (fun _ => rfl) (fun _ present => hooked_shows name ticks ready
        fun hooked middle ticking still length => addListener_shows name ticking (length ▸ present) still) ready
  | removeListener title host handle =>
      exact event_shows (fun _ => rfl) (fun _ present => removeListener_shows handle present ready) ready

/-- Commands leave the sources ready one after the other, up to the first that fails. -/
theorem performAll_shows (attentive : Attentive call) {commands : List (Command Operation)}
    (ticks : ∀ command ∈ commands, Ticks command) (ready : Ready world) :
    (performAll call commands).Shows world fun _ _ => True := by
  induction commands generalizing world with
  | nil => exact .of_run rfl (.refl ready) trivial
  | cons command rest ih =>
      obtain ⟨own, others⟩ := List.forall_mem_cons.mp ticks
      refine (ticks_shows attentive ready own).bind fun answer _ after kept _ => ?_
      have answered : Kept [] after (after.note (.answered command.title answer)) :=
        .note kept.ready trivial rfl fun _ => rfl
      exact .step rfl answered (ih others answered.ready)

end Perform

/-- Whatever stands between the beginning and the end of a call is not shown. -/
theorem Kept.call {uses : List Nat} {hook : Nat} {label : String} {arguments : Arguments} {ending : Ending}
    {shown : List Entry} (kept : Kept shown ((world.note (.called hook label arguments)).count uses) after) :
    Kept [.called hook label arguments] world (after.note (.finished hook arguments ending)) := by
  obtain ⟨inner, added, balanced, -⟩ := kept.news
  refine ⟨kept.ready.beside rfl rfl rfl fun host => broadcasts_without rfl after.journal, kept.length,
    .called hook label arguments :: (inner ++ [.finished hook arguments ending]), ?_,
    .call hook label arguments ending balanced .nil, surface_call balanced hook label arguments ending []⟩
  have journal : after.journal = inner.reverse ++ .called hook label arguments :: world.journal := added
  unfold Adds
  rw [World.note_journal, journal, List.reverse_cons, List.reverse_append, List.append_assoc]
  rfl

/-- However deep hooks nest, they leave the sources ready. -/
theorem attentive_caller (depth : Nat) : Attentive (caller depth) := by
  induction depth with
  | zero => exact fun world hooked arguments ready _ => ⟨ready, rfl⟩
  | succ depth ih =>
      intro world hooked arguments ready ticking
      refine Run.ends_called fun calls uses _ => ?_
      have called : Ready ((world.note (.called hooked.id hooked.label arguments)).count uses) :=
        ready.beside rfl rfl rfl fun _ => broadcasts_without rfl world.journal
      refine Run.Ends.enacts ((Perform.performAll_shows ih (ticking calls) called).excuse
        fun _ wrecked => wrecked.since rfl) fun _ after ⟨shown, kept, _⟩ => ?_
      exact Run.ends_enact ⟨_, kept.call, rfl⟩

end ScriptHost.Session
