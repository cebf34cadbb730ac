/-
This file follows an event to its subscribers and a tick to its listeners, and shows which calls they get to see.
-/
import ScriptHost.Proofs.Tick.Readiness

namespace ScriptHost.Session

open Event (Bridge Subscription)
open Run (Returns Enacts)

/-- The sources stay ready, every call that is made is ended, and these are the calls and the broadcasts that show. -/
structure Kept (shown : List Entry) (world after : World) : Prop where
  ready : Ready after
  length : after.hosts.length = world.hosts.length
  news : ∃ news, Adds world after news ∧ Balanced news ∧ surface 0 news = shown

/-- The sources stay ready even where hooks nest too deep. -/
structure Wrecked (world after : World) : Prop where
  ready : Ready after
  length : after.hosts.length = world.hosts.length

/-- No broadcast of the host shows. -/
def Silent (host : Nat) (shown : List Entry) : Prop :=
  ∀ signal, .broadcast host signal ∉ shown

variable {world middle after : World} {shown more : List Entry}

/-- A wreck remains one as long as hosts neither come nor go. -/
theorem Wrecked.since (wrecked : Wrecked middle after) (length : middle.hosts.length = world.hosts.length) :
    Wrecked world after := ⟨wrecked.ready, wrecked.length.trans length⟩

namespace Kept

/-- What shows in two stretches shows in order. -/
theorem trans (first : Kept shown world middle) (second : Kept more middle after) :
    Kept (shown ++ more) world after where
  ready := second.ready
  length := second.length.trans first.length
  news := by
    obtain ⟨early, added, balanced, rfl⟩ := first.news
    obtain ⟨late, addedToo, balancedToo, rfl⟩ := second.news
    exact ⟨early ++ late, added.append addedToo, balanced.append balancedToo, balanced.surface_append late⟩

/-- Nothing shows where the journal stands still. -/
theorem still (ready : Ready after) (length : after.hosts.length = world.hosts.length)
    (journal : after.journal = world.journal) : Kept [] world after :=
  ⟨ready, length, [], adds_nil journal, .nil, rfl⟩

/-- Nothing shows when nothing happens. -/
theorem refl (ready : Ready world) : Kept [] world world := still ready rfl rfl

/-- An entry that stands by itself shows, if it is one of those that count. -/
theorem entry {entry : Entry} (plain : entry.Aside) (ready : Ready after)
    (length : after.hosts.length = world.hosts.length) (journal : after.journal = entry :: world.journal) :
    Kept (surface 0 [entry]) world after :=
  ⟨ready, length, [entry], journal, .aside plain .nil, rfl⟩

/-- An entry that is no broadcast is noted beside everything else. -/
theorem note {entry : Entry} (ready : Ready world) (plain : entry.Aside) (hidden : surface 0 [entry] = [])
    (quiet : ∀ host, entry.signalFrom? host = none) : Kept [] world (world.note entry) := by
  rw [← hidden]
  exact .entry plain (ready.beside rfl rfl rfl fun host => broadcasts_without (quiet host) world.journal) rfl rfl

/-- A record does not show. -/
theorem report (kept : Kept shown world after) (record : TraceRecord) :
    Kept shown world (after.note (.reported record)) := by
  have reported : Kept [] after (after.note (.reported record)) := .note kept.ready trivial rfl fun _ => rfl
  have both := kept.trans reported
  rwa [List.append_nil] at both

/-- Reports are noted beside everything else. -/
theorem reports (ready : Ready world) (records : List TraceRecord) :
    Kept [] world { world with journal := (records.map .reported).reverse ++ world.journal } := by
  induction records generalizing world with
  | nil => exact .refl ready
  | cons record rest ih =>
      have first := (refl ready).report record
      have whole := first.trans (ih first.ready)
      rw [List.map_cons, List.reverse_cons, List.append_assoc]
      exact whole

end Kept

/-- Unless hooks nest too deep, the run returns and shows what is good. -/
def Run.Shows {α : Type} (body : Run α) (world : World) (good : α → List Entry → Prop) : Prop :=
  body.Ends world (Returns (fun value after => ∃ shown, Kept shown world after ∧ good value shown) (Wrecked world))

namespace Run.Shows

variable {α β : Type} {body : Run α} {next : α → Run β} {value : α} {good : α → List Entry → Prop}
  {better : β → List Entry → Prop}

/-- A run that is known shows what it adds. -/
theorem of_run (ran : body.run.run world = (.ok value, after)) (kept : Kept shown world after)
    (holds : good value shown) : body.Shows world good := by
  unfold Shows Ends
  rw [ran]
  exact ⟨shown, kept, holds⟩

/-- A run that shows something good shows whatever is implied. -/
theorem imp {better : α → List Entry → Prop} (shows : body.Shows world good)
    (implies : ∀ value shown, good value shown → better value shown) : body.Shows world better :=
  Ends.relax shows fun value _ ⟨shown, kept, holds⟩ => ⟨shown, kept, implies value shown holds⟩

/-- What a run shows comes after what was shown before. -/
theorem since {body : Run α} (rest : body.Shows middle fun value more => good value (shown ++ more))
    (kept : Kept shown world middle) :
    body.Ends middle
      (Returns (fun value after => ∃ shown, Kept shown world after ∧ good value shown) (Wrecked world)) := by
  refine (Ends.relax rest fun value last ⟨more, keptToo, holds⟩ => ?_).excuse fun last wrecked =>
    wrecked.since kept.length
  exact ⟨shown ++ more, kept.trans keptToo, holds⟩

/-- What two runs show stands in the order in which they run. -/
theorem bind (first : body.Shows world good)
    (rest : ∀ value shown after, Kept shown world after → good value shown →
      (next value).Shows after fun value more => better value (shown ++ more)) :
    (body >>= next).Shows world better :=
  Ends.returns first fun value after ⟨shown, kept, holds⟩ => (rest value shown after kept holds).since kept

/-- A step that is taken without a hook is followed by the next. -/
theorem step (ran : body.run.run world = (.ok value, after)) (kept : Kept shown world after)
    (rest : (next value).Shows after fun value more => better value (shown ++ more)) :
    (body >>= next).Shows world better := by
  unfold Shows
  rw [ends_bind]
  unfold Ends
  rw [ran]
  exact rest.since kept

end Run.Shows

/-- Unless hooks nest too deep, the run ends as a hook does and shows what is good. -/
def Run.Acts (body : Run Unit) (world : World) (good : List Entry → Prop) : Prop :=
  body.Ends world (Enacts (fun _ after => ∃ shown, Kept shown world after ∧ good shown) (Wrecked world))

/-- A run that acts well acts as is implied. -/
theorem Run.Acts.imp {body : Run Unit} {good better : List Entry → Prop} (acts : body.Acts world good)
    (implies : ∀ shown, good shown → better shown) : body.Acts world better := by
  refine Ends.mono acts fun result after enacted => ?_
  rcases result with raised | value
  · cases raised with
    | failed causes | panicked message =>
        obtain ⟨ending, other, shown, kept, holds⟩ := enacted
        exact ⟨ending, other, shown, kept, implies shown holds⟩
    | stuck => exact enacted
    | exhausted => exact enacted
  · obtain ⟨shown, kept, holds⟩ := enacted
    exact ⟨shown, kept, implies shown holds⟩

/-- A run that shows something acts, too. -/
theorem Run.Shows.acts {body : Run Unit} {good : List Entry → Prop} (shows : body.Shows world fun _ => good) :
    body.Acts world good := by
  refine Ends.mono shows fun result after returns => ?_
  obtain ⟨value, rfl, holds⟩ | ⟨rfl, fails⟩ := returns.cases
  · exact holds
  · exact fails

/-- A fault is reported and keeps nothing else from being done. -/
theorem Run.Acts.isolate {α : Type} {body : Run Unit} {record : Fault → TraceRecord} {next : Run α}
    {told : List Entry → Prop} {good : α → List Entry → Prop} (acts : body.Acts world told)
    (rest : ∀ shown after, Kept shown world after → told shown →
      next.Shows after fun value more => good value (shown ++ more)) :
    (do
      match ← Run.isolate body with
      | none => pure ()
      | some fault => Run.report (record fault)
      next).Shows world good := by
  refine Ends.returns (Ends.isolate acts) fun fault after ⟨ending, _, shown, kept, holds⟩ => ?_
  cases fault with
  | none => exact (rest shown after kept holds).since kept
  | some fault =>
      have reported := kept.report (record fault)
      exact (rest shown _ reported holds).since reported

/-- The hooks that a caller calls leave the sources ready, and only the calls themselves show. -/
def Attentive (call : Caller) : Prop :=
  ∀ world hooked arguments, Ready world → hooked.Ticking →
    (call.hook hooked arguments).Acts world (· = [.called hooked.id hooked.label arguments])

/-- Only a source broadcasts, only for its own host, and only at a tick. -/
def Handler.Heeds (event : Event.Builtin) (handler : Handler) (host : Nat) : Prop :=
  handler = .source host ∧ ∃ index, event = .logicTick index

namespace Events

/-- These calls are due to listeners that hear a signal. -/
def calls (signal : Tick.Signal) (listeners : List (Tick.Listening Listener)) : List Entry :=
  listeners.filterMap fun listening =>
    match listening.listener with
    | .hook hooked => some (.called hooked.id hooked.label (.signal signal))
    | .scheduler .. => none

/-- Calls to listeners are no broadcasts. -/
theorem calls_silent (signal : Tick.Signal) (listeners : List (Tick.Listening Listener)) (host : Nat) :
    Silent host (calls signal listeners) := by
  intro other among
  obtain ⟨listening, -, called⟩ := List.mem_filterMap.mp among
  rcases listening with ⟨id, hooked | ⟨place, name⟩⟩
  · cases called
  · cases called

variable {call : Caller}

/-- A source that is there takes a tick as its own and nothing else. -/
theorem callHandler_source {host : Nat} (free : (world.hostOf host).freed = false) (event : Event.Builtin) :
    (callHandler call event (.source host)).run.run world =
      match event with
      | .logicTick index => (nativeTick call host index).run.run world
      | _ => (.ok (), world) := by
  have read : (callHandler call event (.source host)).run.run world =
      (if ¬ (world.hostOf host).freed then
        match event with
        | .logicTick index => nativeTick call host index
        | _ => pure ()
      else pure () : Run Unit).run.run world := rfl
  rw [read, free, if_pos Bool.false_ne_true]
  cases event <;> rfl

/-- Subscribers may be served in two portions. -/
theorem deliver_append (name : String) (hand : Handler → Run Unit) (early late : List (Subscription Handler)) :
    deliver name hand (early ++ late) = (do deliver name hand early; deliver name hand late) := by
  induction early with
  | nil => rfl
  | cons subscription rest ih =>
      simp only [List.cons_append, deliver, ih, bind_assoc]
      refine bind_congr fun fault => ?_
      cases fault with
      | none => rfl
      | some fault => exact (bind_assoc ..).symm

/-- Whatever shows of a delivery is due to one of the subscribers. -/
theorem deliver_shows {name : String} {hand : Handler → Run Unit} (loud : Handler → Nat → Prop)
    (subscribers : List (Subscription Handler)) (hands : ∀ subscription ∈ subscribers, ∀ middle, Ready middle →
      middle.hosts.length = world.hosts.length → (hand subscription.handler).Acts middle fun shown =>
        ∀ host, ¬ Silent host shown → loud subscription.handler host) (ready : Ready world) :
    (deliver name hand subscribers).Shows world fun _ shown =>
      ∀ host, ¬ Silent host shown → ∃ subscription ∈ subscribers, loud subscription.handler host := by
  induction subscribers generalizing world with
  | nil => exact .of_run rfl (.refl ready) fun host broken => absurd nofun broken
  | cons subscription rest ih =>
      obtain ⟨own, others⟩ := List.forall_mem_cons.mp hands
      refine (own world ready rfl).isolate fun shown after kept due => ?_
      have later := ih (fun other among middle ready same =>
        others other among middle ready (same.trans kept.length)) kept.ready
      refine later.imp fun _ more dueToo host broken => ?_
      by_cases silent : Silent host shown
      · have broken : ¬ Silent host more := fun quiet => broken fun signal among =>
          (List.mem_append.mp among).elim (silent signal) (quiet signal)
        obtain ⟨other, among, holds⟩ := dueToo host broken
        exact ⟨other, .tail _ among, holds⟩
      · exact ⟨subscription, .head _, due host silent⟩

variable (attentive : Attentive call)

include attentive

/-- Each listener is called once with the signal, in the order in which they stand. -/
theorem broadcast_shows (signal : Tick.Signal) (listeners : List (Tick.Listening Listener))
    (ticking : ∀ listening ∈ listeners, listening.listener.Ticking) (ready : Ready world) :
    (broadcast call signal listeners).Shows world fun _ shown => shown = calls signal listeners := by
  induction listeners generalizing world with
  | nil => exact .of_run rfl (.refl ready) rfl
  | cons listening rest ih =>
      obtain ⟨own, others⟩ := List.forall_mem_cons.mp ticking
      rcases listening with ⟨id, hooked | ⟨place, name⟩⟩
      · refine (attentive world hooked (.signal signal) ready own).isolate fun shown after kept called => ?_
        rw [called]
        exact (ih others kept.ready).imp fun _ more same => congrArg (List.cons _) same
      · exact own.elim

/-- The clock has taken the signal when the first listener hears of it. -/
theorem strike_shows {host : Nat} (present : host < world.hosts.length) (signal : Tick.Signal)
    (listeners : List (Tick.Listening Listener)) (ticking : ∀ listening ∈ listeners, listening.listener.Ticking)
    (ready : Ready world) :
    (do
      Run.modifyHost host fun host =>
        { host with source := { host.source with clock := host.source.clock.advance signal } }
      Run.note (.broadcast host signal)
      broadcast call signal listeners).Shows world fun _ shown =>
        shown = Entry.broadcast host signal :: calls signal listeners := by
  have noted : (Entry.broadcast host signal).Aside := trivial
  have struck := Kept.entry noted (ready.struck present signal) World.putHost_length rfl
  have heard := broadcast_shows attentive signal listeners ticking struck.ready
  exact (heard.imp fun _ more same => congrArg (List.cons (.broadcast host signal)) same).since struck

/-- A source that hears of a tick broadcasts once, and to the listeners that it has by then. -/
theorem nativeTick_shows {host : Nat} (present : host < world.hosts.length) (index : UInt64) (ready : Ready world) :
    (nativeTick call host index).Shows world fun _ shown =>
      shown = .broadcast host (Tick.signalOf world.engine.interval index) ::
        calls (Tick.signalOf world.engine.interval index) (world.sourceOf host).listeners := by
  have reported := Kept.reports ready
    (Tick.intervalRecords world.engine.interval ++ Tick.orderRecords (world.sourceOf host).clock index)
  refine .step rfl (.refl ready) (.step rfl (.refl ready) (.step rfl reported ?_))
  refine strike_shows attentive ?_ _ _ ?_ reported.ready
  · exact present
  · exact (ready.listening host).ticking

/-- A handler has a host broadcast only if it is its source and the event is a native tick. -/
theorem callHandler_acts {event : Event.Builtin} {handler : Handler} (ticking : handler.Ticking)
    (present : ∀ host index, handler = .source host → event = .logicTick index → host < world.hosts.length)
    (ready : Ready world) :
    (callHandler call event handler).Acts world fun shown =>
      ∀ host, ¬ Silent host shown → handler.Heeds event host := by
  cases handler with
  | hook hooked =>
      refine (attentive world hooked (.event event) ready ticking).imp fun shown called host loud => ?_
      refine absurd (fun signal among => ?_) loud
      rw [called] at among
      cases List.mem_singleton.mp among
  | source host =>
      unfold Run.Acts Run.Ends
      rw [callHandler_source (ready.freed host)]
      cases event with
      | logicTick index =>
          refine (Run.Shows.imp (nativeTick_shows attentive (present host index rfl rfl) index ready) ?_).acts
          rintro _ shown rfl place loud
          refine ⟨congrArg Handler.source ?_, index, rfl⟩
          by_contra other
          refine loud fun signal among => ?_
          rcases List.mem_cons.mp among with same | called
          · cases same
            exact other rfl
          · exact calls_silent _ _ place signal called
      | _ => exact ⟨[], .refl ready, fun place loud => absurd nofun loud⟩

/-- A handler of raw payloads has nobody broadcast. -/
theorem callRawHandler_acts {payload : Event.Payload} {handler : Handler} (ticking : handler.Ticking)
    (ready : Ready world) :
    (callRawHandler call payload handler).Acts world fun shown => ∀ host, ¬ Silent host shown → False := by
  cases handler with
  | hook hooked =>
      refine (attentive world hooked (.payload payload) ready ticking).imp fun shown called host loud => ?_
      refine loud fun signal among => ?_
      rw [called] at among
      cases List.mem_singleton.mp among
  | source host => exact ⟨[], .refl ready, fun place loud => absurd nofun loud⟩

end Events

end ScriptHost.Session
