/-
This file says whom a pass enrols in a registry while hooks and factories leave the registry alone.
-/
import ScriptHost.Proofs.Binding.Rosters

namespace ScriptHost.Session.Binding

open World (registryOf)

variable {world after : World} {host id : Nat} {call : Caller} {script : String} {entities : List Entity}

/-- The attachment of the behaviour leaves the roster alone. -/
def Attaches (call : Caller) (host : Nat) : BehaviourLogic → Prop
  | .hooked attach _ _ _ => ∀ entity, Aside host (call.hook attach (.entity entity))
  | .scripted .. => True

/-- The factory leaves the roster alone, and so does the attachment of what it makes. -/
structure Reserved (call : Caller) (host : Nat) (factory : Factory Operation) : Prop where
  commands : ∀ script, Aside host (call.perform (factory.ask script).commands)
  attachments : ∀ script hooks, (factory.ask script).offer = .made hooks → ∀ id label entity,
    Aside host (call.hook ⟨id, label, hooks.attach.panicking⟩ (.entity entity))

/-- Equal rosters know equal factories. -/
theorem chainOf_of_roster (same : roster after host = roster world host) {ids : List Nat}
    (known : ids ⊆ (roster world host).factories) : chainOf after ids = chainOf world ids := by
  have factories : (roster after host).factories = (roster world host).factories := congrArg Roster.factories same
  have chain : chainOf after (roster after host).factories = chainOf world (roster world host).factories :=
    congrArg Roster.chain same
  rw [factories] at chain
  exact chainOf_of_chain chain known

/-- Counting what a factory has made moves nobody. -/
theorem countMade_aside (id : Nat) : Aside host (countMade id) := by
  intro world
  unfold countMade
  rw [Run.ends_bind, Run.ends_get, Run.followed_ok]
  dsimp only
  cases held : world.factories[id]? with
  | none => exact rfl
  | some state =>
      dsimp only
      rw [Run.ends_bind, Run.ends_modify, Run.followed_ok, Run.ends_pure]
      simp only [roster, chainOf, look_counted held]
      rfl

/-- What a factory makes can be attached. -/
theorem askFactory_retains {factory : Factory Operation} (held : look world id = some factory)
    (reserved : Reserved call host factory) :
    Retains host world (askFactory call id script) fun made =>
      ∀ logic, made = some logic → Attaches call host logic := by
  obtain ⟨state, found, rfl⟩ := Option.map_eq_some_iff.mp held
  unfold Retains askFactory
  rw [Run.ends_bind, Run.ends_get, Run.followed_ok, found]
  dsimp only
  have noted : Aside host (Run.note (.asked id state.place script)) := aside_note rfl
  refine noted.retains.bind fun _ asked _ _ => ?_
  refine (reserved.commands script).retains.bind fun _ acted _ _ => ?_
  cases offered : (state.factory.ask script).offer with
  | declined => exact retains_pure nofun
  | panic message => exact ⟨rfl, fun _ => nofun⟩
  | made hooks =>
      refine (countMade_aside id).retains.bind fun count counted _ _ => ?_
      refine ⟨rfl, fun made same => ?_⟩
      obtain rfl := Except.ok.inj same
      intro logic same
      obtain rfl := Option.some.inj same
      exact reserved.attachments script hooks offered _ _

/-- Asking factories leaves the roster alone, and what they make attaches quietly. -/
theorem askChain_retains {ids : List Nat} (known : ids ⊆ (roster world host).factories)
    (reserved : ∀ entry ∈ chainOf world ids, Reserved call host entry.2) :
    Retains host world (askChain call script ids) fun made =>
      ∀ logic, made = some logic → Attaches call host logic := by
  induction ids generalizing world with
  | nil => exact retains_pure nofun
  | cons id rest ih =>
      obtain ⟨-, later⟩ := List.cons_subset.mp known
      have tail : ∀ entry ∈ chainOf world rest, Reserved call host entry.2 := by
        intro entry member
        apply reserved
        rw [chainOf, List.filterMap_cons]
        cases (look world id).map (id, ·) with
        | none => exact member
        | some first => exact List.mem_cons_of_mem _ member
      have asked : Retains host world (askFactory call id script) fun made =>
          ∀ logic, made = some logic → Attaches call host logic := by
        cases held : look world id with
        | none =>
            apply (askFactory_missing held).mono
            intro result after done
            obtain ⟨rfl, rfl⟩ := done
            exact retains_pure nofun
        | some factory =>
            refine askFactory_retains held (reserved (id, factory) ?_)
            exact List.mem_filterMap.mpr ⟨id, List.mem_cons_self, by rw [held]; rfl⟩
      refine asked.bind fun made after attaches same => ?_
      cases made with
      | some logic => exact retains_pure attaches
      | none =>
          have known : rest ⊆ (roster after host).factories := by
            rw [same]
            exact later
          apply ih known
          rw [chainOf_of_roster same later]
          exact tail

/-- Whatever is made can be attached, and a panic of a factory makes nothing. -/
theorem createSafely_retains (entity : Entity)
    (reserved : ∀ entry ∈ (roster world host).chain, Reserved call host entry.2) :
    Retains host world (createSafely call host (roster world host).factories entity script) fun made =>
      ∀ logic, made = some logic → Attaches call host logic := by
  rw [createSafely_eq]
  apply Retains.tryCatch
  · refine (askChain_retains (List.Subset.refl _) reserved).bind fun made after attaches _ => ?_
    cases made with
    | some logic => exact retains_pure attaches
    | none =>
        refine (aside_plain (Run.plain_runtime? host)).retains.bind fun runtime last _ _ => ?_
        cases runtime with
        | none => exact retains_pure nofun
        | some runtime =>
            refine retains_pure fun logic made => ?_
            obtain ⟨unit, -, rfl⟩ := Option.map_eq_some_iff.mp made
            trivial
  · intro raised after _
    cases raised with
    | failed causes => exact retains_pure nofun
    | panicked message => exact retains_pure nofun
    | stuck => exact ⟨rfl, fun _ => nofun⟩
    | exhausted => exact ⟨rfl, fun _ => nofun⟩

namespace Roster

/-- The receiver comes behind all others. -/
def enlist (roster : Roster) (receiver : Receiver) : Roster :=
  { roster with
    registry := (roster.registry.add receiver).1
    moves := .came roster.registry.slots.length :: roster.moves }

/-- The numbers that are next given out. -/
def nextIds (roster : Roster) (count : Nat) : List Nat :=
  List.range' roster.registry.slots.length count

/-- Receivers that have come are registered, live, and have not been started. -/
def enrol (roster : Roster) (fresh : List Receiver) : Roster :=
  { roster with
    registry := { roster.registry with
      slots := roster.registry.slots ++ fresh.map fun receiver => ⟨receiver, false, .live, false⟩
      registered := roster.registry.registered ++ roster.nextIds fresh.length }
    moves := ((roster.nextIds fresh.length).map .came).reverse ++ roster.moves }

/-- Enrolling nobody changes nothing. -/
theorem enrol_nil (roster : Roster) : roster.enrol [] = roster := by
  simp [enrol, nextIds]

/-- Enlisting comes after all who are enrolled. -/
theorem enrol_enlist (roster : Roster) (fresh : List Receiver) (receiver : Receiver) :
    (roster.enrol fresh).enlist receiver = roster.enrol (fresh ++ [receiver]) := by
  have next : roster.nextIds (fresh.length + 1) =
      roster.nextIds fresh.length ++ [roster.registry.slots.length + fresh.length] := List.range'_1_concat
  simp [enrol, enlist, Schedule.Registry.add, next]

end Roster

/-- The lock of a registry is a part of its roster. -/
theorem roster_lock (present : host < world.hosts.length) (locked : Bool) :
    roster (world.putRegistry host { world.registryOf host with locked }) host =
      { roster world host with registry := { (roster world host).registry with locked } } :=
  roster_putRegistry present

/-- The lock is held while the behaviour is attached, and then it is given back. -/
theorem attach_achieves {logic : BehaviourLogic} (attaches : Attaches call host logic)
    (present : (roster world host).present = true) (unlocked : (roster world host).registry.locked = false)
    (entity : Entity) (script : String) :
    Achieves host world (Scheduler.attach call host entity script logic)
      fun _ seen => seen = roster world host := by
  cases logic with
  | scripted unit subject => exact achieves_pure rfl
  | hooked attach start update dispose =>
      have lock : ∀ (world : World) (locked : Bool), (roster world host).present = true →
          Achieves host world (Run.modifyRegistry host fun registry => { registry with locked }) fun _ seen =>
            seen = { roster world host with registry := { (roster world host).registry with locked } } :=
        fun world locked present _ _ => roster_lock (roster_present_iff.mp present) locked
      refine (lock world true present).bind fun _ held locked => ?_
      refine (attaches entity).isolate.retains.achieves.bind fun fault attached kept => ?_
      have still : (roster attached host).present = true := by
        rw [kept.1, locked]
        exact present
      refine (lock attached false still).bind fun _ released restored => ?_
      have settled : roster released host = roster world host := by
        rw [restored, kept.1, locked, ← unlocked]
      cases fault with
      | none => exact achieves_pure settled
      | some fault => exact fun _ _ => settled

/-- A behaviour that is not bound yet is enlisted. -/
theorem register_achieves {entity : Entity} {logic : BehaviourLogic} (attaches : Attaches call host logic)
    (present : (roster world host).present = true)
    (new : (entity, script) ∉ (roster world host).registry.bindings) :
    Achieves host world (Scheduler.register call host (.behaviour entity script logic)) fun made seen =>
      made.isSome = true ∧ seen = (roster world host).enlist (bare (.behaviour entity script logic)) := by
  unfold Scheduler.register
  refine registry_achieves.bind fun registry after holds => ?_
  obtain ⟨same, shown, unlocked⟩ := holds
  have accepts : registry.accepts (.behaviour entity script logic) = true := by
    apply accepts_behaviour
    rw [← bareRegistry_bindings, shown, same]
    exact new
  have free : (roster after host).registry.locked = false := by
    rw [← shown]
    exact unlocked
  rw [← same] at present ⊢
  rw [if_pos accepts]
  refine (attach_achieves attaches present free entity script).bind fun _ attached kept => ?_
  rw [← kept] at present ⊢
  refine registry_achieves.bind fun registry last holds => ?_
  obtain ⟨same, shown, -⟩ := holds
  rw [← same] at present ⊢
  refine (setRegistry_achieves present _).bind fun _ listed same => ?_
  refine (note_achieves _).bind fun _ noted told => ?_
  apply achieves_pure
  refine ⟨rfl, ?_⟩
  have length : registry.slots.length = (roster last host).registry.slots.length := by
    rw [← shown]
    exact (List.length_map _).symm
  have added : bareRegistry (registry.add (.behaviour entity script logic)).1 =
      ((roster last host).registry.add (bare (.behaviour entity script logic))).1 := by
    rw [bareRegistry_add, shown]
  rw [told, same, Roster.enlist, ← added, ← length, move?, if_pos rfl]
  rfl

/-- A new receiver comes last. -/
theorem add_receivers {registry : Registry} (within : ∀ id ∈ registry.registered, id < registry.slots.length)
    (receiver : Receiver) : (registry.add receiver).1.receivers = registry.receivers ++ [receiver] := by
  have old : ∀ id ∈ registry.registered, (registry.add receiver).1.receiver? id = registry.receiver? id := by
    intro id member
    exact congrArg (Option.map _) (List.getElem?_append_left (within id member))
  have new : (registry.add receiver).1.receiver? registry.slots.length = some receiver :=
    congrArg (Option.map _) List.getElem?_concat_length
  unfold Schedule.Registry.receivers
  change (registry.registered ++ [registry.slots.length]).filterMap _ = _
  rw [List.filterMap_append, List.filterMap_congr old, List.filterMap_cons, new]
  rfl

/-- A pass enrols behaviours of the entities that it looks at, and it knows of all that are bound. -/
structure Grown (first : Roster) (entities : List Entity) (truncated : Bool) (pass : Pass) (now : Roster) :
    Prop where
  known : ∀ pair ∈ now.registry.bindings, pair ∈ pass.bound
  within : ∀ id ∈ now.registry.registered, id < now.registry.slots.length
  enrolled : ∃ fresh, now = first.enrol fresh ∧
    ∀ receiver ∈ fresh, ∃ pair, receiver.binding? = some pair ∧ pair.1 ∈ entities
  truncated : pass.report.truncated = truncated
  pruned : pass.report.pruned = 0

variable {first now : Roster} {truncated : Bool} {pass : Pass}

/-- A pass that has grown the roster has left its factories alone. -/
theorem Grown.still (grown : Grown first entities truncated pass now) :
    now.present = first.present ∧ now.factories = first.factories ∧ now.chain = first.chain := by
  obtain ⟨fresh, rfl, -⟩ := grown.enrolled
  exact ⟨rfl, rfl, rfl⟩

/-- A behaviour of one of the entities is enlisted. -/
theorem Grown.enlist (grown : Grown first entities truncated pass now) {entity : Entity}
    (member : entity ∈ entities) {receiver : Receiver} (binds : receiver.binding? = some (entity, script)) :
    Grown first entities truncated (pass.attached.bind entity script) (now.enlist receiver) where
  known := by
    intro pair inside
    change pair ∈ (now.registry.add receiver).1.receivers.filterMap _ at inside
    rw [add_receivers grown.within, List.filterMap_append] at inside
    rcases List.mem_append.mp inside with old | new
    · exact List.mem_cons_of_mem _ (grown.known pair old)
    · rw [List.filterMap_cons, binds] at new
      obtain rfl := List.mem_singleton.mp new
      exact List.mem_cons_self
  within := by
    intro id inside
    change id < (now.registry.slots ++ [_]).length
    rw [List.length_append]
    rcases List.mem_append.mp inside with old | new
    · exact Nat.lt_succ_of_lt (grown.within id old)
    · rw [List.mem_singleton.mp new]
      exact Nat.lt_succ_self _
  enrolled := by
    obtain ⟨fresh, rfl, alive⟩ := grown.enrolled
    refine ⟨fresh ++ [receiver], first.enrol_enlist fresh receiver, fun other inside => ?_⟩
    rcases List.mem_append.mp inside with old | new
    · exact alive other old
    · rw [List.mem_singleton.mp new]
      exact ⟨(entity, script), binds, member⟩
  truncated := grown.truncated
  pruned := grown.pruned

section Growth

variable (present : first.present = true)
  (reserved : ∀ entry ∈ first.chain, Reserved call host entry.2)

include present reserved

/-- Binding one name enrols at most one receiver. -/
theorem bindName_grows (grown : Grown first entities truncated pass (roster world host)) {entity : Entity}
    (member : entity ∈ entities) :
    Achieves host world (bindName call host first.factories entity pass script) (Grown first entities truncated) := by
  obtain ⟨present', factories, chain⟩ := grown.still
  unfold bindName
  by_cases known : (entity, script) ∈ pass.bound
  · rw [if_pos (List.contains_iff_mem.mpr known)]
    exact achieves_pure { grown with }
  · rw [if_neg (fun held => known (List.contains_iff_mem.mp held))]
    rw [← factories]
    rw [← chain] at reserved
    refine (createSafely_retains entity reserved).achieves.bind fun made created holds => ?_
    obtain ⟨same, attaches⟩ := holds
    cases made with
    | none =>
        refine (aside_report _).retains.achieves.bind fun _ last kept => ?_
        rw [← same, ← kept.1] at grown
        exact achieves_pure { grown with }
    | some logic =>
        have still : (roster created host).present = true := by
          rw [same]
          exact present'.trans present
        have unbound : (entity, script) ∉ (roster created host).registry.bindings := by
          rw [same]
          exact fun inside => known (grown.known _ inside)
        refine (register_achieves (attaches logic rfl) still unbound).bind fun id last enlisted => ?_
        obtain ⟨registered, enlisted⟩ := enlisted
        obtain ⟨id, rfl⟩ := Option.isSome_iff_exists.mp registered
        apply achieves_pure
        rw [enlisted, same]
        exact grown.enlist member (bare_binding? _)

/-- Binding the names of an entity enrols receivers of that entity alone. -/
theorem bindNames_grows {names : List String} (grown : Grown first entities truncated pass (roster world host))
    {entity : Entity} (member : entity ∈ entities) :
    Achieves host world (bindNames call host first.factories entity pass names)
      (Grown first entities truncated) := by
  induction names generalizing pass world with
  | nil => exact achieves_pure grown
  | cons name rest ih =>
      exact (bindName_grows present reserved grown member).bind fun pass after grown => ih grown

/-- However the entities change on the way, only behaviours of the ones that were listed are enrolled. -/
theorem bindEntities_grows {listed : List Entity} (inside : listed ⊆ entities)
    (grown : Grown first entities truncated pass (roster world host)) :
    Achieves host world (bindEntities call host first.factories pass listed) (Grown first entities truncated) := by
  induction listed generalizing pass world with
  | nil => exact achieves_pure grown
  | cons entity rest ih =>
      obtain ⟨member, inside⟩ := List.cons_subset.mp inside
      refine (aside_plain (declared_plain entity)).retains.achieves.bind fun names told kept => ?_
      rw [← kept.1] at grown
      refine (bindNames_grows present reserved grown member).bind fun pass after grown => ?_
      exact ih inside grown

end Growth

end ScriptHost.Session.Binding
