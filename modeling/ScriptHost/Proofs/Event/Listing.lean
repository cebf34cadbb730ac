/-
This file hands events round by one list of subscriptions and shows that a bridge does the same.
-/
import ScriptHost.Proofs.Event.Ledger
import ScriptHost.Proofs.Schedule.Runs
import ScriptHost.Proofs.Session.Together

namespace ScriptHost.Session

open Event (Ledger Member Topic)
open Effect (Together Twin)

/-- These commands speak to the bridge only, and so do the hooks that they subscribe. -/
inductive Speaks : Command Operation → Prop
  | say (title host text : String) : Speaks ⟨title, host, .say text⟩
  | subscribe (title host : String) (kind : Event.Kind) (name : String) (hook : Hook Operation)
      (speaks : ∀ calls, ∀ command ∈ (hook.turn calls).commands, Speaks command) :
      Speaks ⟨title, host, .subscribe kind name hook⟩
  | subscribeRaw (title host event name : String) (hook : Hook Operation)
      (speaks : ∀ calls, ∀ command ∈ (hook.turn calls).commands, Speaks command) :
      Speaks ⟨title, host, .subscribeRaw event name hook⟩
  | unsubscribe (title host event handle : String) : Speaks ⟨title, host, .unsubscribe event handle⟩
  | subscribers (title host event : String) : Speaks ⟨title, host, .subscribers event⟩
  | dropped (title host : String) : Speaks ⟨title, host, .dropped⟩
  | publish (title host : String) (event : Event.Builtin) : Speaks ⟨title, host, .publish event⟩
  | publishRaw (title host event : String) (payload : Event.Payload) :
      Speaks ⟨title, host, .publishRaw event payload⟩
  | decode (title host event : String) (payload : Event.Payload) :
      Speaks ⟨title, host, .decode event payload⟩

def Hook.Speaking (hook : Hook Operation) : Prop :=
  ∀ calls, ∀ command ∈ (hook.turn calls).commands, Speaks command

/-- The subscriptions stand in the list, and everything else is as in the world. -/
structure Listing where
  world : World
  ledger : Ledger Hooked

namespace Listing

def inWorld {α : Type} (body : Run α) : Effect Listing α := fun listing =>
  ((body.run.run listing.world).1, { listing with world := (body.run.run listing.world).2 })

def setLedger (ledger : Ledger Hooked) : Effect Listing Unit :=
  modify fun listing => { listing with ledger }

def isolate (body : Effect Listing Unit) : Effect Listing (Option Fault) := fun listing =>
  (Run.isolated (body.run.run listing).1, (body.run.run listing).2)

variable (call : Hooked → Arguments → Effect Listing Unit)

/-- A member that fails or panics is reported, and the next one has its turn. -/
def deliver (name : String) (arguments : Arguments) : List (Member Hooked) → Effect Listing Unit
  | [] => return ()
  | member :: rest => do
      match ← isolate (call member.hand arguments) with
      | none => pure ()
      | some fault => inWorld (Run.report (Events.subscriberRecord name member.id fault))
      deliver name arguments rest

/-- An event goes to the members that are in the list when its delivery begins. -/
def dispatch (name : String) (payload : Event.Payload) : Effect Listing Event.Route := do
  let ledger := (← get).ledger
  match Event.decode name payload with
  | some (.ok event) =>
      let members := ledger.on (.typed event.kind)
      deliver call name (.event event) members
      return .typed members.length
  | some (.error mismatch) =>
      modify fun listing => { listing with ledger := listing.ledger.drop }
      inWorld (Run.report (warning "events" s!"dropping event: {mismatch.message}" []))
      return .dropped
  | none =>
      let members := ledger.on (.raw name)
      deliver call name (.payload payload) members
      return .raw members.length

def issue (topic : Topic) (hooked : Hooked) : Effect Listing Nat := do
  let (ledger, id) := (← get).ledger.subscribe topic hooked
  setLedger ledger
  return id

def issueRaw (event : String) (hooked : Hooked) : Effect Listing Nat := do
  inWorld (Run.reportAll (Events.rawRecords event))
  issue (.raw event) hooked

def subscribe (kind : Event.Kind) (name : String) (hook : Hook Operation) : Effect Listing Answer := do
  let hooked ← inWorld (Run.hooked name hook)
  let id ← issue (.typed kind) hooked
  inWorld (Run.nameHandle name (.subscription id))
  return .nothing

def subscribeRaw (event name : String) (hook : Hook Operation) : Effect Listing Answer := do
  let hooked ← inWorld (Run.hooked name hook)
  let id ← issueRaw event hooked
  inWorld (Run.nameHandle name (.subscription id))
  return .nothing

def unsubscribe (event handle : String) : Effect Listing Answer := do
  match ((← get).world.names.handles.lookup handle).bind Perform.subscription? with
  | some id => do
      let (ledger, removed) := (← get).ledger.unsubscribe event id
      setLedger ledger
      return .truth removed
  | none => return .problem (.noHandle handle)

def operate : Operation → Effect Listing Answer
  | .say text => return .text text
  | .subscribe kind name hook => subscribe kind name hook
  | .subscribeRaw event name hook => subscribeRaw event name hook
  | .unsubscribe event handle => unsubscribe event handle
  | .subscribers event => do return .count ((← get).ledger.count event)
  | .dropped => do return .count (← get).ledger.dropped
  | .publish event => do return .route (← dispatch call event.name event.encode)
  | .publishRaw event payload => do return .route (← dispatch call event payload)
  | .decode event payload => return .decoded (Event.decode event payload)
  | _ => return .problem .unsuitable

def performAll : List (Command Operation) → Effect Listing Unit
  | [] => return ()
  | command :: rest => do
      let answer ← operate call command.operation
      inWorld (Run.note (.answered command.title answer))
      performAll rest

def caller : Nat → Hooked → Arguments → Effect Listing Unit
  | 0 => fun _ _ => throw .exhausted
  | depth + 1 => fun hooked arguments => do
      inWorld (Run.note (.called hooked.id hooked.label arguments))
      let turn := hooked.hook.turn (← inWorld (Run.use hooked))
      performAll (caller depth) turn.commands
      inWorld (Run.note (.finished hooked.id arguments turn.ending))
      inWorld turn.ending.enact

/-- The list is empty at first. -/
def play (depth : Nat) (commands : List (Command Operation)) (world : World) :
    Except Raised Unit × Listing :=
  (performAll (caller depth) commands).run.run ⟨world, .empty⟩

/-- A world and a listing differ in how they keep the subscriptions, and only there. -/
structure Matches (world : World) (listing : Listing) : Prop where
  outside : world = { listing.world with bridge := world.bridge }
  represents : world.bridge.Represents .hook listing.ledger
  orderly : listing.ledger.Orderly
  speaking : ∀ member ∈ listing.ledger.live, member.hand.hook.Speaking

/-- Such a run does not look at the bridge. -/
def Unbridged {α : Type} (body : Run α) : Prop :=
  ∀ world bridge, body.run.run { world with bridge } =
    ((body.run.run world).1, { (body.run.run world).2 with bridge })

/-- What does not touch the bridge does the same beside a list. -/
theorem Unbridged.together {α : Type} {body : Run α} (unbridged : Unbridged body) :
    Together Matches (Twin Eq) body (inWorld body) := by
  intro world listing matching
  have moved : body.run.run world = ((body.run.run listing.world).1,
      { (body.run.run listing.world).2 with bridge := world.bridge }) := by
    rw [← unbridged, ← matching.outside]
  rw [moved]
  exact ⟨Effect.twin_eq.mpr rfl, rfl, matching.represents, matching.orderly, matching.speaking⟩

/-- A note does not touch the bridge. -/
theorem unbridged_note (entry : Entry) : Unbridged (Run.note entry) := fun _ _ => rfl

/-- Reports do not touch the bridge. -/
theorem unbridged_reportAll (records : List TraceRecord) : Unbridged (Run.reportAll records) :=
  fun _ _ => rfl

/-- A new hook does not touch the bridge. -/
theorem unbridged_hooked (label : String) (hook : Hook Operation) : Unbridged (Run.hooked label hook) :=
  fun _ _ => rfl

/-- Using a hook does not touch the bridge. -/
theorem unbridged_use (hooked : Hooked) : Unbridged (Run.use hooked) := fun _ _ => rfl

/-- A handle is named without touching the bridge. -/
theorem unbridged_nameHandle (name : String) (handle : Handle) : Unbridged (Run.nameHandle name handle) :=
  fun _ _ => rfl

/-- The end of a hook does not touch the bridge. -/
theorem unbridged_enact (ending : Ending) : Unbridged ending.enact := by
  intro world bridge
  cases ending <;> rfl

variable {call : Hooked → Arguments → Effect Listing Unit} {concrete : Caller}

/-- Both callers call the hooks that members can have in the same way. -/
def Alike (concrete : Caller) (call : Hooked → Arguments → Effect Listing Unit) : Prop :=
  ∀ hooked arguments, hooked.hook.Speaking →
    Together Matches (Twin Eq) (concrete.hook hooked arguments) (call hooked arguments)

/-- Isolation tells the same fault on both sides. -/
theorem isolate_together {body : Run Unit} {listed : Effect Listing Unit}
    (together : Together Matches (Twin Eq) body listed) :
    Together Matches (Twin Eq) (Run.isolate body) (isolate listed) := by
  intro world listing matching
  obtain ⟨ends, after⟩ := together world listing matching
  rw [Run.isolate_run]
  exact ⟨Effect.twin_eq.mpr (congrArg Run.isolated (Effect.twin_eq.mp ends)), after⟩

/-- A bridge and the ledger that represents it may be set together. -/
theorem setLedger_together {bridge : Event.Bridge Handler} {ledger : Ledger Hooked}
    (represents : bridge.Represents .hook ledger) (orderly : ledger.Orderly)
    (speaking : ∀ member ∈ ledger.live, member.hand.hook.Speaking) :
    Together Matches (Twin Eq) (modify fun world => { world with bridge } : Run Unit)
      (setLedger ledger) := by
  intro world listing matching
  refine ⟨rfl, ?_, represents, orderly, speaking⟩
  change { world with bridge } = { listing.world with bridge }
  rw [matching.outside]

/-- The subscribers of a topic are called like its members. -/
theorem deliver_together (alike : Alike concrete call) (name : String) (arguments : Arguments)
    (hand : Handler → Run Unit) (hands : ∀ hooked, hand (.hook hooked) = concrete.hook hooked arguments)
    (members : List (Member Hooked))
    (speaking : ∀ member ∈ members, member.hand.hook.Speaking) :
    Together Matches (Twin Eq) (Events.deliver name hand (members.map (Event.Bridge.entry .hook)))
      (deliver call name arguments members) := by
  induction members with
  | nil => exact Effect.together_pure rfl
  | cons member rest ih =>
      have called := isolate_together (alike member.hand arguments (speaking member List.mem_cons_self))
      have later := ih fun other inside => speaking other (List.mem_cons_of_mem _ inside)
      rw [List.map_cons, Events.deliver, deliver]
      simp only [Event.Bridge.entry, hands]
      apply called.then
      rintro fault _ rfl
      cases fault with
      | none => exact later
      | some fault => exact (unbridged_note _).together.then fun _ _ _ => later

/-- A dropped event is counted on both sides. -/
theorem drop_together :
    Together Matches (Twin Eq)
      (modify fun world => { world with bridge := world.bridge.drop } : Run Unit)
      (modify fun listing => { listing with ledger := listing.ledger.drop } : Effect Listing Unit) := by
  intro world listing matching
  refine ⟨rfl, ?_, matching.represents.drop, matching.orderly.drop, matching.speaking⟩
  change { world with bridge := world.bridge.drop } = { listing.world with bridge := world.bridge.drop }
  rw [matching.outside]

/-- Reading the world goes with reading the listing. -/
theorem get_together : Together Matches (Twin Matches) (get : Run World) (get : Effect Listing Listing) :=
  fun _ _ matching => ⟨matching, matching⟩

/-- All subscribers of a topic have hooks that speak. -/
theorem Matches.speaking_on {world : World} {listing : Listing} (matching : Matches world listing)
    (topic : Topic) : ∀ member ∈ listing.ledger.on topic, member.hand.hook.Speaking :=
  fun member inside => matching.speaking member (Ledger.mem_on.mp inside).1

/-- A decoded event is of the kind that decoded it. -/
theorem decode_kind {kind : Event.Kind} {payload : Event.Payload} {event : Event.Builtin}
    (decoded : kind.decode payload = .ok event) : event.kind = kind := by
  unfold Event.Kind.decode at decoded
  split at decoded
  · cases decoded
    cases kind <;> rfl
  · cases decoded

/-- An event is handed round by the bridge as by the list. -/
theorem dispatch_together (alike : Alike concrete call) (name : String) (payload : Event.Payload) :
    Together Matches (Twin Eq) (Events.dispatch concrete name payload) (dispatch call name payload) := by
  unfold Events.dispatch dispatch
  apply get_together.then
  intro world listing matching
  unfold Event.decode
  cases Event.Kind.ofName? name with
  | none =>
      simp only [Option.map_none, matching.represents.raw, List.length_map]
      have delivered := deliver_together alike name (.payload payload)
        (Events.callRawHandler concrete payload) (fun _ => rfl) (listing.ledger.on (.raw name))
        (matching.speaking_on _)
      exact delivered.then fun _ _ _ => Effect.together_pure rfl
  | some kind =>
      simp only [Option.map_some]
      cases decoded : kind.decode payload with
      | error mismatch =>
          apply drop_together.then
          intro _ _ _
          exact (unbridged_note _).together.then fun _ _ _ => Effect.together_pure rfl
      | ok event =>
          simp only [matching.represents.typed, List.length_map, decode_kind decoded]
          have delivered := deliver_together alike name (.event event)
            (Events.callHandler concrete event) (fun _ => rfl) (listing.ledger.on (.typed kind))
            (matching.speaking_on _)
          exact delivered.then fun _ _ _ => Effect.together_pure rfl

/-- A new member speaks as its hook does. -/
theorem speaking_subscribe {ledger : Ledger Hooked} {topic : Topic} {hooked : Hooked}
    (speaking : ∀ member ∈ ledger.live, member.hand.hook.Speaking) (speaks : hooked.hook.Speaking) :
    ∀ member ∈ (ledger.subscribe topic hooked).1.live, member.hand.hook.Speaking := by
  intro member inside
  rcases List.mem_append.mp inside with old | new
  · exact speaking member old
  · rw [List.mem_singleton.mp new]
    exact speaks

/-- Whoever is left after one subscriber has gone speaks still. -/
theorem speaking_unsubscribe {ledger : Ledger Hooked} {name : String} {id : Nat}
    (speaking : ∀ member ∈ ledger.live, member.hand.hook.Speaking) :
    ∀ member ∈ (ledger.unsubscribe name id).1.live, member.hand.hook.Speaking := by
  unfold Ledger.unsubscribe
  split
  · exact fun member inside => speaking member (List.mem_of_mem_filter inside)
  · exact speaking

/-- A hook takes the same number on both sides. -/
theorem hooked_together (label : String) (hook : Hook Operation) (speaks : hook.Speaking) :
    Together Matches (Twin fun hooked other => hooked = other ∧ hooked.hook.Speaking)
      (Run.hooked label hook) (inWorld (Run.hooked label hook)) := by
  intro world listing matching
  obtain ⟨ends, after⟩ := (unbridged_hooked label hook).together world listing matching
  refine ⟨?_, after⟩
  rw [← Effect.twin_eq.mp ends]
  exact ⟨rfl, speaks⟩

/-- A typed subscription takes the same number on both sides. -/
theorem issue_typed_together (kind : Event.Kind) {hooked : Hooked} (speaks : hooked.hook.Speaking) :
    Together Matches (Twin Eq) (Events.subscribe kind (.hook hooked)) (issue (.typed kind) hooked) := by
  unfold Events.subscribe issue
  apply get_together.then
  intro world listing matching
  have kept := setLedger_together (matching.represents.subscribe kind hooked)
    (matching.orderly.subscribe (.typed kind) hooked) (speaking_subscribe matching.speaking speaks)
  exact kept.then fun _ _ _ => Effect.together_pure matching.represents.next

/-- A raw subscription takes the same number on both sides, or the same warning. -/
theorem issue_raw_together (event : String) {hooked : Hooked} (speaks : hooked.hook.Speaking) :
    Together Matches (Twin Eq) (Events.subscribeRaw event (.hook hooked)) (issueRaw event hooked) := by
  unfold Events.subscribeRaw issueRaw issue
  apply (unbridged_reportAll _).together.then
  intro _ _ _
  apply get_together.then
  intro world listing matching
  have kept := setLedger_together (matching.represents.subscribeRaw event hooked)
    (matching.orderly.subscribe (.raw event) hooked) (speaking_subscribe matching.speaking speaks)
  exact kept.then fun _ _ _ => Effect.together_pure matching.represents.next

/-- A subscription is named on both sides. -/
theorem name_together (name : String) (id : Nat) :
    Together Matches (Twin Eq)
      (do Run.nameHandle name (.subscription id); return .nothing : Run Answer)
      (do inWorld (Run.nameHandle name (.subscription id)); return .nothing) :=
  (unbridged_nameHandle _ _).together.then fun _ _ _ => Effect.together_pure rfl

/-- Commands that subscribe agree with the list. -/
theorem subscribe_together (kind : Event.Kind) (name : String) (hook : Hook Operation)
    (speaks : hook.Speaking) :
    Together Matches (Twin Eq) (Perform.subscribe kind name hook) (subscribe kind name hook) := by
  apply (hooked_together name hook speaks).then
  rintro hooked _ ⟨rfl, speaks⟩
  apply (issue_typed_together kind speaks).then
  rintro id _ rfl
  exact name_together name id

/-- Commands that subscribe to raw events agree with the list. -/
theorem subscribeRaw_together (event name : String) (hook : Hook Operation) (speaks : hook.Speaking) :
    Together Matches (Twin Eq) (Perform.subscribeRaw event name hook) (subscribeRaw event name hook) := by
  apply (hooked_together name hook speaks).then
  rintro hooked _ ⟨rfl, speaks⟩
  apply (issue_raw_together event speaks).then
  rintro id _ rfl
  exact name_together name id

/-- Commands that unsubscribe agree with the list. -/
theorem unsubscribe_together (event handle : String) :
    Together Matches (Twin Eq)
      (Perform.withHandle handle Perform.subscription? fun id => do
        return .truth (← Events.unsubscribe event id))
      (unsubscribe event handle) := by
  unfold Perform.withHandle unsubscribe
  apply get_together.then
  intro world listing matching
  rw [show world.names = listing.world.names by rw [matching.outside]]
  cases (listing.world.names.handles.lookup handle).bind Perform.subscription? with
  | none => exact Effect.together_pure rfl
  | some id =>
      unfold Events.unsubscribe
      simp only [bind_assoc]
      apply get_together.then
      intro world listing matching
      obtain ⟨answer, represents⟩ := matching.represents.unsubscribe matching.orderly event id
      have kept := setLedger_together represents (matching.orderly.unsubscribe event id)
        (speaking_unsubscribe matching.speaking)
      exact kept.then fun _ _ _ => Effect.together_pure (congrArg Answer.truth answer)

/-- An event takes the same route on both sides. -/
theorem route_together (alike : Alike concrete call) (name : String) (payload : Event.Payload) :
    Together Matches (Twin Eq) (do return .route (← Events.dispatch concrete name payload) : Run Answer)
      (do return .route (← dispatch call name payload)) :=
  (dispatch_together alike name payload).then fun _ _ same =>
    Effect.together_pure (congrArg Answer.route same)

/-- Every operation that speaks agrees with the list. -/
theorem operate_together (alike : Alike concrete call) (host : Nat) {command : Command Operation}
    (speaks : Speaks command) :
    Together Matches (Twin Eq) (Perform.operate concrete command.host host command.operation)
      (operate call command.operation) := by
  cases speaks with
  | say title name text => exact Effect.together_pure rfl
  | subscribe title name kind label hook speaks => exact subscribe_together kind label hook speaks
  | subscribeRaw title name event label hook speaks => exact subscribeRaw_together event label hook speaks
  | unsubscribe title name event handle => exact unsubscribe_together event handle
  | subscribers title name event =>
      exact get_together.then fun _ _ matching =>
        Effect.together_pure (congrArg Answer.count (matching.represents.count event))
  | dropped title name =>
      exact get_together.then fun _ _ matching =>
        Effect.together_pure (congrArg Answer.count matching.represents.dropped)
  | publish title name event => exact route_together alike event.name event.encode
  | publishRaw title name event payload => exact route_together alike event payload
  | decode title name event payload => exact Effect.together_pure rfl

/-- Every command that speaks agrees with the list. -/
theorem perform_together (alike : Alike concrete call) {command : Command Operation}
    (speaks : Speaks command) :
    Together Matches (Twin Eq) (Perform.perform concrete command) (operate call command.operation) := by
  intro world listing matching
  have operated := operate_together alike ((world.names.hosts.lookup command.host).getD 0) speaks
  have opened : (Perform.perform concrete command).run.run world =
      (Perform.operate concrete command.host ((world.names.hosts.lookup command.host).getD 0)
        command.operation).run.run world := by
    unfold Perform.perform
    rw [Stateful.run_bind]
    rfl
  rw [opened]
  exact operated world listing matching

/-- Commands agree with the list one after the other. -/
theorem performAll_together (alike : Alike concrete call) {commands : List (Command Operation)}
    (speaks : ∀ command ∈ commands, Speaks command) :
    Together Matches (Twin Eq) (Perform.performAll concrete commands) (performAll call commands) := by
  induction commands with
  | nil => exact Effect.together_pure rfl
  | cons command rest ih =>
      have later := ih fun other inside => speaks other (List.mem_cons_of_mem _ inside)
      apply (perform_together alike (speaks command List.mem_cons_self)).then
      rintro answer _ rfl
      exact (unbridged_note _).together.then fun _ _ _ => later

/-- Hooks that nest deeper call hooks of the depth below. -/
theorem caller_alike (depth : Nat) : Alike (Session.caller depth) (caller depth) := by
  induction depth with
  | zero => exact fun _ _ _ => Effect.together_throw rfl
  | succ depth ih =>
      intro hooked arguments speaks
      apply (unbridged_note _).together.then
      intro _ _ _
      apply (unbridged_use hooked).together.then
      rintro calls _ rfl
      apply (performAll_together ih (speaks calls)).then
      intro _ _ _
      apply (unbridged_note _).together.then
      intro _ _ _
      exact (unbridged_enact _).together

/-- Commands that speak to a bridge find it to be one list of subscriptions. They end the same way and
leave the same world, and the tables of the bridge are views of the list. Numbers are issued once. -/
theorem bridge_refines_ledger {world : World} {commands : List (Command Operation)}
    (silent : world.bridge = .empty) (speaks : ∀ command ∈ commands, Speaks command) (depth : Nat) :
    (Scheduler.play depth commands world).1 = (play depth commands world).1 ∧
      Matches (Scheduler.play depth commands world).2 (play depth commands world).2 := by
  -- Without subscriptions both are empty, and every command keeps them together from then on.
  have start : Matches world ⟨world, .empty⟩ := by
    refine ⟨rfl, ?_, .empty, by simp [Ledger.empty]⟩
    rw [silent]
    exact .empty
  obtain ⟨ends, after⟩ := performAll_together (caller_alike depth) speaks world ⟨world, .empty⟩ start
  exact ⟨Effect.twin_eq.mp ends, after⟩

/-- This subscriber leaves while it is called, passes the event on under another name, and panics. -/
def relayHook : Hook Operation where
  turn _ :=
    ⟨[⟨"", "", .unsubscribe "logic_tick" "relay"⟩, ⟨"", "", .publishRaw "echo" [1]⟩], .panic none⟩

def relayRun : List (Command Operation) :=
  [⟨"", "", .subscribe .logicTick "relay" relayHook⟩,
    ⟨"", "", .subscribeRaw "echo" "echo" ⟨fun _ => ⟨[], .failure none "late"⟩⟩⟩,
    ⟨"", "", .publish (.logicTick 1)⟩, ⟨"", "", .publishRaw "logic_tick" [1]⟩]

/-- The commands of the example speak. -/
theorem relay_speaks : ∀ command ∈ relayRun, Speaks command := by
  intro command member
  simp only [relayRun, List.mem_cons, List.not_mem_nil, or_false] at member
  rcases member with rfl | rfl | rfl | rfl
  · apply Speaks.subscribe
    intro calls command member
    simp only [relayHook, List.mem_cons, List.not_mem_nil, or_false] at member
    rcases member with rfl | rfl
    · exact .unsubscribe _ _ _ _
    · exact .publishRaw _ _ _ _
  · apply Speaks.subscribeRaw
    intro calls command member
    cases member
  · exact .publish _ _ _
  · exact .publishRaw _ _ _ _

/-- The relay is gone after its only call, and the payload of the wrong size is dropped. -/
theorem bridge_refines_ledger_relay :
    (World.create ⟨[], []⟩ .lowest).bridge = .empty ∧ (∀ command ∈ relayRun, Speaks command) ∧
      (play 3 relayRun (World.create ⟨[], []⟩ .lowest)).2.ledger.issued = [0, 1] ∧
      (play 3 relayRun (World.create ⟨[], []⟩ .lowest)).2.ledger.live.map Member.id = [1] ∧
      (play 3 relayRun (World.create ⟨[], []⟩ .lowest)).2.ledger.dropped = 1 ∧
      (Scheduler.play 3 relayRun (World.create ⟨[], []⟩ .lowest)).1 =
        (play 3 relayRun (World.create ⟨[], []⟩ .lowest)).1 ∧
      Matches (Scheduler.play 3 relayRun (World.create ⟨[], []⟩ .lowest)).2
        (play 3 relayRun (World.create ⟨[], []⟩ .lowest)).2 := by
  refine ⟨rfl, relay_speaks, ?_, ?_, ?_, bridge_refines_ledger rfl relay_speaks 3⟩
  · decide +kernel
  · decide +kernel
  · decide +kernel

end Listing

end ScriptHost.Session
