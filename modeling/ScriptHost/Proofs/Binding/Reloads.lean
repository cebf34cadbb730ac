/-
This file shows that a reload of the scene disposes of all behaviours and binds as if there had been none.
-/
import ScriptHost.Proofs.Binding.Orphans
import ScriptHost.Proofs.Binding.Settling
import ScriptHost.Session.Lifecycle

namespace ScriptHost.Session.Binding

open World (registryOf)
open Schedule (Phase)

def isBehaviour (receiver : Receiver) : Bool :=
  receiver.binding?.isSome

namespace View

/-- All behaviours are taken out. -/
def cleared (view : View) : View :=
  { view with registered := view.registered.filter fun id => !(view.trait? Schedule.Receiver.binding? id).isSome }

variable {view : View}

/-- Whoever stays when behaviours are cleared is bound to nothing. -/
theorem cleared_unbound : ∀ id ∈ view.cleared.registered, view.trait? Schedule.Receiver.binding? id = none := by
  intro id member
  simpa using (List.mem_filter.mp member).2

/-- Nothing is bound once behaviours are cleared. -/
theorem cleared_bindings : view.cleared.bindings = [] := by
  apply List.filterMap_eq_nil_iff.mpr
  intro id member
  change view.trait? Schedule.Receiver.binding? id = none
  exact cleared_unbound id member

/-- Systems stay when behaviours are cleared. -/
theorem cleared_systems : view.cleared.systems = view.systems :=
  filter_systems fun id unbound => by rw [unbound]; rfl

end View

variable {world after : World} {host id : Nat} {call : Caller} {first other seen : View} {entities : List Entity}
  {pairs : List (Entity × String)}

/-- Nothing is bound there, and a pass sees the same as here otherwise. -/
structure Cleared (first other : View) : Prop where
  ready : Ready other
  engine : other.engine = first.engine
  binder : other.binder = first.binder
  library : other.library = first.library
  chain : other.chain = first.chain
  systems : other.systems = first.systems
  bindings : other.bindings = []

/-- A view that is ready is ready for a reload once it is cleared. -/
theorem Ready.cleared (ready : Ready first) : Cleared first first.cleared where
  ready :=
    { present := ready.present
      idle := ready.idle
      unlocked := ready.unlocked
      within := fun id member => ready.within id (List.mem_filter.mp member).1 }
  engine := rfl
  binder := rfl
  library := rfl
  chain := rfl
  systems := View.cleared_systems
  bindings := View.cleared_bindings

/-- These pairs are bound from scratch, in their order, where somebody makes a behaviour for them. -/
structure Rebound (first : View) (entities : List Entity) (pairs : List (Entity × String)) (report : BindReport)
    (seen : View) : Prop where
  bindings : seen.bindings = pairs.filter fun pair => first.resolves pair.2
  systems : seen.systems = first.systems
  report : report =
    { scanned := entities.length
      attached := (pairs.filter fun pair => first.resolves pair.2).length
      alreadyBound := 0
      unresolved := pairs.filter fun pair => !first.resolves pair.2
      pruned := 0
      truncated := first.truncates entities }

/-- A pass over a registry without behaviours binds from scratch. -/
theorem Cleared.rebound {report : BindReport} (cleared : Cleared first other)
    (passed : Passed other entities pairs report seen) : Rebound first entities pairs report seen := by
  have resolves : other.resolves = first.resolves := by
    funext script
    rw [View.resolves, View.resolves, cleared.library, cleared.chain]
  have unbound : other.unbound pairs = pairs := by
    rw [View.unbound, cleared.bindings]
    exact List.filter_eq_self.mpr fun _ _ => rfl
  have fresh : other.fresh pairs = pairs.filter fun pair => first.resolves pair.2 := by
    rw [View.fresh, unbound, resolves]
  constructor
  · rw [passed.bindings, cleared.bindings, fresh]
    rfl
  · exact passed.systems.trans cleared.systems
  · rw [passed.reported, View.report, View.tally, View.unresolved, unbound, fresh, resolves, cleared.bindings,
      View.truncates, cleared.binder]
    simp [View.truncates]

/-- What comes of binding from scratch: the report of the pass, or the panic of the engine. -/
def Rebinds (host : Nat) (first : View) (entities : List Entity) :
    Except String (List (Entity × String)) → Except Raised (Except NativeError BindReport) → World → Prop
  | .ok pairs, result, after => ∃ report, result = .ok (.ok report) ∧
      Rebound first entities pairs report (view after host)
  | .error message, result, _ => result = .error (.panicked message)

/-- Where no behaviour is left, no orphan has to be disposed of. -/
theorem Cleared.vacant (cleared : Cleared first (view world host)) (entities : List Entity) :
    Disposable call host (view world host) entities := by
  intro id member pair told
  have bound : pair ∈ (view world host).bindings := List.mem_filterMap.mpr ⟨id, member, told⟩
  rw [cleared.bindings] at bound
  cases bound

/-- A pass over a cleared view binds as if there had been no behaviours. -/
theorem Cleared.binds (cleared : Cleared first (view world host))
    (tame : ∀ entry ∈ first.chain, Tame call host entry.2)
    (lists : first.engine.liveEntities first.binder.cap = .ok entities) (distinct : entities.Nodup) :
    (bindAll call host).Ends world (Rebinds host first entities (wanted first.engine entities)) := by
  rw [← cleared.chain] at tame
  rw [← cleared.engine, ← cleared.binder] at lists
  apply (bindAll_binds cleared.ready tame lists (fun _ => cleared.vacant entities) distinct).mono
  intro result after binds
  have engine : world.engine = first.engine := cleared.engine
  rw [engine] at binds
  revert binds
  cases wanted first.engine entities with
  | error message => exact id
  | ok pairs =>
      intro binds
      obtain ⟨report, same, passed⟩ := binds
      exact ⟨report, same, cleared.rebound passed⟩

/-- Whoever has nothing bound there and binds or reloads binds from scratch. -/
def Restores (call : Caller) (host : Nat) (first : View) : Prop :=
  ∀ (later : World) (entities : List Entity), Cleared first (view later host) →
    first.engine.liveEntities first.binder.cap = .ok entities → entities.Nodup →
      (bindAll call host).Ends later (Rebinds host first entities (wanted first.engine entities)) ∧
        (Lifecycle.reloadScene call host).Ends later (Rebinds host first entities (wanted first.engine entities))

def moves (host : Nat) (journal : List Entry) : List Move :=
  journal.filterMap (move? host)

def behaviours (registry : Registry) : List Nat :=
  (registry.take isBehaviour).2

/-- Behaviours have come behind all that were registered, nobody was finalized, and the new ones have not been
started. -/
structure Renewed (host : Nat) (mid after : World) : Prop where
  came : ∃ count,
    (after.registryOf host).registered =
      (mid.registryOf host).registered ++ List.range' (mid.registryOf host).slots.length count ∧
    moves host after.journal =
      ((List.range' (mid.registryOf host).slots.length count).map .came).reverse ++ moves host mid.journal
  unstarted : ∀ id, (mid.registryOf host).slots.length ≤ id → ∀ slot,
    (after.registryOf host).slots[id]? = some slot → slot.started = false ∧ slot.phase = .live

section Vacant

variable {former later : Roster} {fresh : List Receiver} {choose : Receiver → Bool}

/-- A removal that chooses nobody changes nothing. -/
theorem Removed.nobody (removed : Removed choose former later)
    (nobody : ∀ id ∈ former.registry.registered, former.registry.chosen choose id = false) :
    later.registry.registered = former.registry.registered ∧ later.moves = former.moves ∧
      ∀ id : Nat, later.registry.slots[id]? = former.registry.slots[id]? := by
  obtain ⟨gone, told, known⟩ := removed.since
  have none : gone = [] := by
    apply List.eq_nil_iff_forall_not_mem.mpr
    intro id member
    obtain ⟨registered, chosen⟩ := known id member
    rw [nobody id registered] at chosen
    cases chosen
  refine ⟨?_, by rw [told, none]; rfl, fun id => ?_⟩
  · rw [removed.registered]
    exact List.filter_eq_self.mpr fun id member => by rw [nobody id member]; rfl
  · have spared : ¬ (id ∈ former.registry.registered ∧ former.registry.chosen choose id = true) := by
      intro taken
      rw [nobody id taken.1] at taken
      cases taken.2
    rw [removed.slots]
    simp only [if_neg spared, Option.map_id']

variable (proper : Proper former.registry)
  (vacant : ∀ id ∈ former.registry.registered, former.registry.chosen isBehaviour id = false)
include proper vacant

/-- Where no behaviour was registered all belong to listed entities. -/
theorem enrol_listed (listed : ∀ receiver ∈ fresh, ∃ pair, receiver.binding? = some pair ∧ pair.1 ∈ entities) :
    ∀ id ∈ (former.enrol fresh).registry.registered,
      (former.enrol fresh).registry.chosen (ofOthers entities) id = false := by
  intro id member
  obtain ⟨slot, held⟩ := (proper.enrol fresh).held member
  rw [chosen_held held]
  by_cases inside : id < former.registry.slots.length
  · rw [enrol_slot? fresh inside] at held
    have old : id ∈ former.registry.registered := by
      rcases mem_enrol.mp member with old | ⟨outside, -⟩
      · exact old
      · exact absurd inside (Nat.not_lt.mpr outside)
    have system := vacant id old
    rw [chosen_held held, isBehaviour] at system
    have none : slot.receiver.binding? = none := by simpa using system
    rw [ofOthers, none]
    rfl
  · obtain ⟨receiver, arrived, rfl⟩ := enrol_new held (Nat.not_lt.mp inside)
    obtain ⟨pair, binds, known⟩ := listed receiver arrived
    simp [ofOthers, binds, known]

/-- Where no behaviour was registered a pass only enrols. -/
theorem Sifted.enrols {cap : Nat} {report : BindReport} (sifted : Sifted former entities cap report later) :
    ∃ fresh, later.registry.registered = (former.enrol fresh).registry.registered ∧
      later.moves = (former.enrol fresh).moves ∧
      ∀ id : Nat, later.registry.slots[id]? = (former.enrol fresh).registry.slots[id]? := by
  by_cases cut : cap ≤ entities.length
  · obtain ⟨-, fresh, rfl⟩ := sifted.cut cut
    exact ⟨fresh, rfl, rfl, fun _ => rfl⟩
  · obtain ⟨fresh, listed, removed⟩ := sifted.whole (Nat.not_le.mp cut)
    exact ⟨fresh, removed.nobody (enrol_listed proper vacant listed)⟩

end Vacant

/-- A pass over a registry without behaviours renews them all. -/
theorem Sifted.renewed {cap : Nat} {report : BindReport} {mid : World} (proper : Proper (roster mid host).registry)
    (vacant : ∀ id ∈ (roster mid host).registry.registered,
      (roster mid host).registry.chosen isBehaviour id = false)
    (sifted : Sifted (roster mid host) entities cap report (roster after host)) : Renewed host mid after := by
  obtain ⟨fresh, registered, moved, slots⟩ := sifted.enrols proper vacant
  have length : (roster mid host).registry.slots.length = (mid.registryOf host).slots.length := List.length_map _
  constructor
  · refine ⟨fresh.length, ?_, ?_⟩
    · rw [← length]
      exact registered
    · rw [← length]
      exact moved
  · intro id outside slot held
    have seen := (slots id).symm.trans (roster_held held)
    rw [← length] at outside
    obtain ⟨receiver, -, same⟩ := enrol_new seen outside
    exact ⟨congrArg Schedule.Slot.started same, congrArg Schedule.Slot.phase same⟩

/-- The scene is bound from scratch if the entities can be listed. If they cannot, nothing is bound, and whoever binds
or reloads when they can be listed again binds from scratch. The engine may panic while it tells what an entity
declares. -/
structure Reloads (call : Caller) (host : Nat) (world mid : World) : Prop where
  refused : ∀ error, world.engine.liveEntities (view world host).binder.cap = .error error →
    (Lifecycle.reloadScene call host).Ends world (fun result after => result = .ok (.error error) ∧ after = mid) ∧
      Cleared (view world host) (view mid host) ∧
      Restores call host { view world host with engine := { world.engine with liveCode := none } }
  panicked : ∀ entities message, world.engine.liveEntities (view world host).binder.cap = .ok entities →
    entities.Nodup → wanted world.engine entities = .error message →
    (Lifecycle.reloadScene call host).Ends world fun result _ => result = .error (.panicked message)
  rebound : ∀ entities pairs, world.engine.liveEntities (view world host).binder.cap = .ok entities →
    entities.Nodup → wanted world.engine entities = .ok pairs →
    (Lifecycle.reloadScene call host).Ends world fun result after => ∃ report, result = .ok (.ok report) ∧
      Rebound (view world host) entities pairs report (view after host) ∧ Renewed host mid after ∧
      ∀ blank, Cleared (view world host) (view blank host) → (bindAll call host).Ends blank fun again last =>
        again = result ∧ (last.registryOf host).bindings = (after.registryOf host).bindings ∧
          (last.registryOf host).systems = (after.registryOf host).systems

/-- A discreet roster stays discreet when receivers are removed. -/
theorem Discreet.remove {roster : Roster} (discreet : Discreet call host roster) (choose : Receiver → Bool) :
    Discreet call host (roster.remove choose) where
  factories := by
    have chain : (roster.remove choose).chain = roster.chain := by
      unfold Roster.remove
      rw [Roster.retireAll_frame]
    rw [chain]
    exact discreet.factories
  disposals := by
    intro slot member behaviour
    obtain ⟨id, held⟩ := List.mem_iff_getElem?.mp member
    rw [remove_slot?, Option.map_eq_some_iff] at held
    obtain ⟨former, found, rfl⟩ := held
    have same : ∀ retires : Prop, [Decidable retires] →
        (if retires then retired former else former).receiver = former.receiver := by
      intro retires _
      split <;> rfl
    rw [same] at behaviour ⊢
    exact discreet.disposals former (List.mem_of_getElem? found) behaviour

end ScriptHost.Session.Binding
