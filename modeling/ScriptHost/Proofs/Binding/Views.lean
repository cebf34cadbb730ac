/-
This file says how much of the world a pass of the binder sees, and what it means to leave that alone.
-/
import ScriptHost.Proofs.Session.Registries
import ScriptHost.Session.Binding

namespace ScriptHost.Session.Binding

/-- What a scripted behaviour keeps of its own is left out. -/
def bare : Receiver → Receiver
  | .behaviour entity script (.scripted unit _) => .behaviour entity script (.scripted unit (.map []))
  | receiver => receiver

/-- A pass sees no more of the world than this, and it tells which scripts it asked which factory for, the
latest first. -/
structure View where
  present : Bool
  engine : Engine
  binder : Binder
  library : Option Script.UnitCache
  chain : List (Nat × Factory Operation)
  receivers : List Receiver
  registered : List Nat
  locked : Bool
  asked : List (Nat × String)

def look (world : World) (id : Nat) : Option (Factory Operation) :=
  world.factories[id]?.map FactoryState.factory

/-- Numbers without a factory are passed over. -/
def chainOf (world : World) (ids : List Nat) : List (Nat × Factory Operation) :=
  ids.filterMap fun id => (look world id).map (id, ·)

/-- Only the factories of the binder count. -/
def asked? (ids : List Nat) : Entry → Option (Nat × String)
  | .asked id _ script => if ids.contains id then some (id, script) else none
  | _ => none

def view (world : World) (host : Nat) : View where
  present := host < world.hosts.length
  engine := world.engine
  binder := ((world.hosts[host]?).getD .core).binder
  library := ((world.hosts[host]?).getD .core).runtime.map Runtime.behaviours
  chain := chainOf world ((world.hosts[host]?).getD .core).binder.factories
  receivers := (world.registryOf host).slots.map fun slot => bare slot.receiver
  registered := (world.registryOf host).registered
  locked := (world.registryOf host).locked
  asked := world.journal.filterMap (asked? ((world.hosts[host]?).getD .core).binder.factories)

namespace View

def list (view : View) (registry : Registry) : View :=
  { view with
    receivers := registry.slots.map fun slot => bare slot.receiver
    registered := registry.registered
    locked := registry.locked }

def ask (view : View) (requests : List (Nat × String)) : View :=
  { view with asked := requests.reverse ++ view.asked }

def busy (view : View) (busy : Bool) : View :=
  { view with binder := { view.binder with busy } }

/-- What is told of the receiver under a number. -/
def trait? {Trait : Type} (view : View) (tell : Receiver → Option Trait) (id : Nat) : Option Trait :=
  view.receivers[id]?.bind tell

def traits {Trait : Type} (view : View) (tell : Receiver → Option Trait) : List Trait :=
  view.registered.filterMap (view.trait? tell)

def bindings (view : View) : List (Entity × String) :=
  view.traits Schedule.Receiver.binding?

def systems (view : View) : List Nat :=
  view.traits Schedule.Receiver.kind?

end View

variable {world after : World} {host : Nat} {registry : Registry}

/-- A bare receiver is bound where the receiver is. -/
@[simp] theorem bare_binding? (receiver : Receiver) : (bare receiver).binding? = receiver.binding? := by
  rcases receiver with _ | ⟨_, _, _ | _⟩ <;> rfl

/-- A bare system is of the kind of the system. -/
@[simp] theorem bare_kind? (receiver : Receiver) : (bare receiver).kind? = receiver.kind? := by
  rcases receiver with _ | ⟨_, _, _ | _⟩ <;> rfl

/-- A view tells of a receiver what does not depend on its own values. -/
theorem view_traits {Trait : Type} {tell : Receiver → Option Trait}
    (plain : ∀ receiver, tell (bare receiver) = tell receiver) :
    (view world host).traits tell = (world.registryOf host).receivers.filterMap tell := by
  have same : (view world host).trait? tell =
      fun id => ((world.registryOf host).receiver? id).bind tell := by
    funext id
    change ((world.registryOf host).slots.map fun slot => bare slot.receiver)[id]?.bind tell = _
    rw [List.getElem?_map, Schedule.Registry.receiver?, Schedule.Registry.slot?]
    cases (world.registryOf host).slots[id]? with
    | none => rfl
    | some slot => exact plain slot.receiver
  rw [View.traits, same, Schedule.Registry.receivers, List.filterMap_filterMap]
  rfl

/-- The view shows the bindings that the registry tells of. -/
theorem view_bindings : (view world host).bindings = (world.registryOf host).bindings :=
  view_traits bare_binding?

/-- A view is there if its host is. -/
theorem present_iff : (view world host).present = true ↔ host < world.hosts.length :=
  decide_eq_true_iff

/-- A note adds a request if it is one to a factory of the binder. -/
theorem view_note (entry : Entry) : view (world.note entry) host =
    (view world host).ask (asked? (view world host).binder.factories entry).toList := by
  have asked : (view (world.note entry) host).asked =
      (asked? (view world host).binder.factories entry).toList.reverse ++ (view world host).asked := by
    change (entry :: world.journal).filterMap (asked? (view world host).binder.factories) = _
    rw [List.filterMap_cons]
    cases asked? (view world host).binder.factories entry <;> rfl
  rw [View.ask, ← asked]
  rfl

@[simp] theorem view_reported (record : TraceRecord) :
    view (world.note (.reported record)) host = view world host := rfl

@[simp] theorem view_finalized (place id : Nat) :
    view (world.note (.finalized place id)) host = view world host := rfl

@[simp] theorem view_count (uses : List Nat) : view (world.count uses) host = view world host := rfl

/-- A new registry shows as it is. -/
theorem view_putRegistry (present : host < world.hosts.length) :
    view (world.putRegistry host registry) host = (view world host).list registry := by
  simp [view, View.list, World.putRegistry, World.registryOf, present, chainOf, look]

section Chains

variable {ids part : List Nat} {id : Nat} {factory : Factory Operation} {requests : List (Nat × String)}

/-- A chain consists of the factories that are found. -/
theorem mem_chainOf : (id, factory) ∈ chainOf world ids ↔ id ∈ ids ∧ look world id = some factory := by
  rw [chainOf, List.mem_filterMap]
  constructor
  · rintro ⟨given, member, found⟩
    obtain ⟨asked, looked, paired⟩ := Option.map_eq_some_iff.mp found
    obtain ⟨rfl, rfl⟩ := Prod.mk.inj paired
    exact ⟨member, looked⟩
  · rintro ⟨member, looked⟩
    exact ⟨id, member, by rw [looked]; rfl⟩

/-- Factories that are asked in the same chain are the same. -/
theorem look_of_chain (same : chainOf after ids = chainOf world ids) (member : id ∈ ids) :
    look after id = look world id := by
  ext factory
  have asked : (id, factory) ∈ chainOf after ids ↔ (id, factory) ∈ chainOf world ids := by rw [same]
  rwa [mem_chainOf, mem_chainOf, and_iff_right member, and_iff_right member] at asked

/-- Where a chain is the same, its parts are. -/
theorem chainOf_of_chain (same : chainOf after ids = chainOf world ids) (known : part ⊆ ids) :
    chainOf after part = chainOf world part := by
  induction part with
  | nil => rfl
  | cons id rest ih =>
      obtain ⟨first, later⟩ := List.cons_subset.mp known
      unfold chainOf at ih ⊢
      rw [List.filterMap_cons, List.filterMap_cons, look_of_chain same first, ih later]

/-- The factories stay the same while they are asked. -/
theorem chainOf_of_ask (same : view after host = (view world host).ask requests) :
    chainOf after (view world host).binder.factories = chainOf world (view world host).binder.factories := by
  have binder : (view after host).binder = (view world host).binder := by
    rw [same]
    rfl
  have chain : chainOf after (view after host).binder.factories = (view world host).chain := by
    change (view after host).chain = _
    rw [same]
    rfl
  rwa [binder] at chain

/-- A factory is the same however many behaviours it has made. -/
theorem look_counted {state : FactoryState} (held : world.factories[id]? = some state) (made other : Nat) :
    look { world with factories := world.factories.set id { state with made } } other = look world other := by
  unfold look
  by_cases here : id = other
  · subst here
    obtain ⟨inside, -⟩ := List.getElem?_eq_some_iff.mp held
    rw [held, List.getElem?_set_self inside]
    rfl
  · rw [List.getElem?_set_ne here]

end Chains

/-- The body comes to its end, early or not, and a pass sees nothing of it. -/
def Unseen (host : Nat) (world : World) (body : Run Unit) : Prop :=
  body.Ends world (Run.Enacts (fun _ after => view after host = view world host) fun _ => False)

/-- The body returns, and this is what a pass sees then. -/
def Yields {α : Type} (host : Nat) (world : World) (body : Run α) (good : α → View → Prop) : Prop :=
  body.Ends world (Run.Returns (fun value after => good value (view after host)) fun _ => False)

/-- What two runs yield follows from what each one does. -/
theorem Yields.bind {α β : Type} {body : Run α} {next : α → Run β} {good : α → View → Prop}
    {better : β → View → Prop} (first : Yields host world body good)
    (rest : ∀ value after, good value (view after host) → Yields host after (next value) better) :
    Yields host world (body >>= next) better :=
  Run.Ends.returns first rest

/-- A run that yields decides with which view the next one starts. -/
theorem Yields.ends {α β : Type} {body : Run α} {next : α → Run β} {good : α → View → Prop}
    {post : Except Raised β → World → Prop} (first : Yields host world body good)
    (rest : ∀ value after, good value (view after host) → (next value).Ends after post) :
    (body >>= next).Ends world post := by
  rw [Run.ends_bind]
  apply Run.Ends.mono first
  intro result after returns
  obtain ⟨value, rfl, holds⟩ | ⟨-, fails⟩ := returns.cases
  · exact rest value after holds
  · exact fails.elim

/-- A weaker result is yielded as well. -/
theorem Yields.mono {α : Type} {body : Run α} {good better : α → View → Prop}
    (yields : Yields host world body good) (implies : ∀ value seen, good value seen → better value seen) :
    Yields host world body better :=
  Run.Ends.relax yields fun value after => implies value (view after host)

/-- A run that only returns yields what holds already. -/
theorem yields_pure {α : Type} {value : α} {good : α → View → Prop} (holds : good value (view world host)) :
    Yields host world (pure value) good := holds

/-- An isolated run that is not seen yields the same view. -/
theorem Unseen.isolate {body : Run Unit} (unseen : Unseen host world body) :
    Yields host world (Run.isolate body) fun _ seen => seen = view world host :=
  (Run.Ends.isolate unseen).relax fun _ _ ⟨_, _, same⟩ => same

/-- A report yields the same view. -/
theorem yields_report (record : TraceRecord) :
    Yields host world (Run.report record) fun _ seen => seen = view world host := rfl

end ScriptHost.Session.Binding
