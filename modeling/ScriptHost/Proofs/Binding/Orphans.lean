/-
This file shows which behaviours a pass of the binder disposes of when it has been told of all entities.
-/
import ScriptHost.Proofs.Binding.Retiring

namespace ScriptHost.Session.Binding

open World (registryOf)
open Schedule (Phase)
open Shutdown (finals)

/-- Factories and the hooks of behaviours leave the scheduler alone. -/
structure Discreet (call : Caller) (host : Nat) (roster : Roster) : Prop where
  factories : ∀ entry ∈ roster.chain, Reserved call host entry.2
  disposals : ∀ slot ∈ roster.registry.slots, slot.receiver.binding?.isSome = true →
    Yielding call host slot.receiver

/-- The behaviours of other entities. -/
def ofOthers (entities : List Entity) (receiver : Receiver) : Bool :=
  receiver.binding?.any fun pair => !entities.contains pair.1

/-- A pass enrols behaviours. It removes those of other entities, unless its list of entities may be cut. -/
structure Sifted (first : Roster) (entities : List Entity) (cap : Nat) (report : BindReport) (seen : Roster) :
    Prop where
  truncated : report.truncated = decide (cap ≤ entities.length)
  cut : cap ≤ entities.length → report.pruned = 0 ∧ ∃ fresh, seen = first.enrol fresh
  whole : entities.length < cap → ∃ fresh,
    (∀ receiver ∈ fresh, ∃ pair, receiver.binding? = some pair ∧ pair.1 ∈ entities) ∧
      Removed (ofOthers entities) (first.enrol fresh) seen

variable {world after : World} {host id : Nat} {call : Caller} {first seen : Roster} {entities : List Entity}
  {fresh : List Receiver} {choose second : Receiver → Bool}

/-- Conditions that agree on who is registered remove the same receivers. -/
theorem Removed.congr {before : Roster} (removed : Removed choose before seen)
    (alike : ∀ id ∈ before.registry.registered,
      before.registry.chosen choose id = before.registry.chosen second id) : Removed second before seen where
  registered := by
    rw [removed.registered]
    exact List.filter_congr fun id member => by rw [alike id member]
  slots := by
    intro id
    rw [removed.slots]
    by_cases member : id ∈ before.registry.registered <;> simp [member, alike]
  ended := by
    intro id
    rw [removed.ended]
    by_cases member : id ∈ before.registry.registered <;> simp [member, alike]
  since := by
    obtain ⟨gone, moves, known⟩ := removed.since
    exact ⟨gone, moves, fun id member =>
      ⟨(known id member).1, alike id (known id member).1 ▸ (known id member).2⟩⟩
  present := removed.present

/-- Enrolling changes no slot that was there. -/
theorem enrol_slot? (fresh : List Receiver) (inside : id < first.registry.slots.length) :
    (first.enrol fresh).registry.slots[id]? = first.registry.slots[id]? :=
  List.getElem?_append_left inside

/-- A number that has been given out since belongs to a receiver that has come. -/
theorem enrol_new {slot : Slot} (held : (first.enrol fresh).registry.slots[id]? = some slot)
    (outside : first.registry.slots.length ≤ id) :
    ∃ receiver ∈ fresh, slot = ⟨receiver, false, .live, false⟩ := by
  change (first.registry.slots ++ fresh.map fun receiver => (⟨receiver, false, .live, false⟩ : Slot))[id]? =
    some slot at held
  rw [List.getElem?_append_right outside, List.getElem?_map, Option.map_eq_some_iff] at held
  obtain ⟨receiver, found, rfl⟩ := held
  exact ⟨receiver, List.mem_of_getElem? found, rfl⟩

/-- Registered are those who were before and those who are enrolled. -/
theorem mem_enrol : id ∈ (first.enrol fresh).registry.registered ↔ id ∈ first.registry.registered ∨
    first.registry.slots.length ≤ id ∧ id < first.registry.slots.length + fresh.length := by
  change id ∈ first.registry.registered ++ List.range' first.registry.slots.length fresh.length ↔ _
  rw [List.mem_append, List.mem_range'_1]

/-- A proper registry stays proper when receivers are enrolled. -/
theorem Proper.enrol (proper : Proper first.registry) (fresh : List Receiver) :
    Proper (first.enrol fresh).registry where
  within := by
    intro id member
    change id < (first.registry.slots ++ _).length
    rw [List.length_append, List.length_map]
    rcases mem_enrol.mp member with old | ⟨-, bound⟩
    · exact Nat.lt_add_right _ (proper.within id old)
    · exact bound
  distinct := by
    refine List.nodup_append.mpr ⟨proper.distinct, List.nodup_range', fun old member new later => ?_⟩
    rintro rfl
    exact absurd (List.mem_range'_1.mp later).1 (Nat.not_le.mpr (proper.within old member))
  live := by
    intro id member slot held
    by_cases inside : id < first.registry.slots.length
    · rw [enrol_slot? fresh inside] at held
      rcases mem_enrol.mp member with old | ⟨outside, -⟩
      · exact proper.live id old slot held
      · exact absurd inside (Nat.not_lt.mpr outside)
    · obtain ⟨receiver, -, rfl⟩ := enrol_new held (Nat.not_lt.mp inside)
      rfl

/-- Nobody is finalized by coming. -/
theorem enrol_ended (first : Roster) (fresh : List Receiver) (id : Nat) :
    (first.enrol fresh).moves.count (.ended id) = first.moves.count (.ended id) := by
  change (((first.nextIds fresh.length).map Move.came).reverse ++ first.moves).count _ = _
  have none : ((first.nextIds fresh.length).map Move.came).reverse.count (.ended id) = 0 := by
    rw [List.count_reverse, List.count_eq_zero, List.mem_map]
    exact fun ⟨_, _, same⟩ => nomatch same
  rw [List.count_append, none, Nat.zero_add]

/-- The behaviours of orphans are those of entities that were not listed. -/
theorem Grown.ofOrphans {truncated : Bool} {pass : Pass} (grown : Grown first entities truncated pass seen)
    {slot : Slot} (member : id ∈ seen.registry.registered) (held : seen.registry.slots[id]? = some slot) :
    ofEntities (orphans pass.bound entities) slot.receiver = ofOthers entities slot.receiver := by
  unfold ofEntities ofOthers
  cases binds : slot.receiver.binding? with
  | none => rfl
  | some pair =>
      have bound : pair ∈ seen.registry.bindings := by
        refine List.mem_filterMap.mpr ⟨slot.receiver, List.mem_filterMap.mpr ⟨id, member, ?_⟩, binds⟩
        exact congrArg (Option.map _) held
      have orphan : pair.1 ∈ orphans pass.bound entities ↔ pair.1 ∉ entities := by
        rw [mem_orphans, List.mem_map]
        exact ⟨And.right, fun gone => ⟨⟨pair, grown.known pair bound, rfl⟩, gone⟩⟩
      by_cases gone : pair.1 ∈ entities <;> simp [orphan, gone]

/-- Whoever has come belongs to a listed entity, so that its finalizer does not matter. -/
theorem Discreet.enrol (discreet : Discreet call host first)
    (listed : ∀ receiver ∈ fresh, ∃ pair, receiver.binding? = some pair ∧ pair.1 ∈ entities) {slot : Slot}
    (held : (first.enrol fresh).registry.slots[id]? = some slot) (other : ofOthers entities slot.receiver = true) :
    Yielding call host slot.receiver := by
  obtain ⟨pair, binds, gone⟩ := (Option.any_eq_true _ _).mp other
  by_cases inside : id < first.registry.slots.length
  · rw [enrol_slot? fresh inside] at held
    exact discreet.disposals slot (List.mem_of_getElem? held) (by rw [binds]; rfl)
  · obtain ⟨receiver, arrived, rfl⟩ := enrol_new held (Nat.not_lt.mp inside)
    obtain ⟨mine, tells, member⟩ := listed receiver arrived
    obtain rfl := Option.some.inj (binds.symm.trans tells)
    simp [member] at gone

/-- A pass over entities enrols and removes. -/
theorem pass_sifts (entities : List Entity) (present : (roster world host).present = true)
    (proper : Proper (roster world host).registry) (discreet : Discreet call host (roster world host)) (cap : Nat) :
    Achieves host world (pass call host (roster world host).factories cap entities)
      (Sifted (roster world host) entities cap) := by
  unfold pass
  refine registry_achieves.bind fun registry after holds => ?_
  obtain ⟨same, shown, -⟩ := holds
  rw [← same] at present proper discreet ⊢
  dsimp only
  have begun : Grown (roster after host) entities (decide (cap ≤ entities.length))
      ⟨registry.bindings, ⟨entities.length, 0, 0, [], 0, decide (cap ≤ entities.length)⟩⟩ (roster after host) :=
    { known := by
        rw [← shown, bareRegistry_bindings]
        exact fun _ => id
      within := proper.within
      enrolled := ⟨[], (Roster.enrol_nil _).symm, nofun⟩
      truncated := rfl
      pruned := rfl }
  refine (bindEntities_grows present discreet.factories (List.Subset.refl _) begun).bind fun pass grown holds => ?_
  obtain ⟨fresh, enrolled, alive⟩ := holds.enrolled
  -- At the cap nobody is pruned, since the list of entities may have been cut.
  by_cases cut : cap ≤ entities.length
  · rw [if_pos (decide_eq_true cut)]
    refine (note_achieves _).bind fun _ noted told => ?_
    apply achieves_pure
    refine ⟨holds.truncated, fun _ => ⟨holds.pruned, fresh, ?_⟩,
      fun whole => absurd cut (Nat.not_le.mpr whole)⟩
    rw [told]
    exact enrolled
  · rw [if_neg (by simpa using cut)]
    have others : ∀ id ∈ (roster grown host).registry.registered, ∀ slot,
        (roster grown host).registry.slots[id]? = some slot →
          ofEntities (orphans pass.bound entities) slot.receiver = ofOthers entities slot.receiver :=
      fun _ member _ held => holds.ofOrphans member held
    rw [enrolled] at others
    have settled : Proper (roster grown host).registry := by
      rw [enrolled]
      exact proper.enrol fresh
    have yielding : ∀ id ∈ (roster grown host).registry.registered, ∀ slot,
        (roster grown host).registry.slots[id]? = some slot →
          ofEntities (orphans pass.bound entities) slot.receiver = true → Yielding call host slot.receiver := by
      rw [enrolled]
      intro id member slot held chosen
      rw [others id member slot held] at chosen
      exact discreet.enrol alive held chosen
    refine (prune_achieves (holds.still.1.trans present) settled yielding 0).bind fun pruned last removed => ?_
    apply achieves_pure
    refine ⟨holds.truncated, fun whole => absurd whole cut, fun _ => ⟨fresh, alive, ?_⟩⟩
    rw [enrolled] at removed
    apply removed.congr
    intro id member
    obtain ⟨slot, held⟩ := (proper.enrol fresh).held member
    rw [chosen_held held, chosen_held held]
    exact others id member slot held

/-- Whether the binder is busy concerns no receiver. -/
theorem setBusy_aside (busy : Bool) : Aside host (setBusy host busy) := by
  intro world
  by_cases inside : host < world.hosts.length
  · let changed : Host := { (world.hosts[host]?).getD .core with
      binder := { ((world.hosts[host]?).getD .core).binder with busy } }
    change roster { world with hosts := world.hosts.set host changed } host = _
    simp [changed, roster, registryOf, inside, chainOf, look]
  · change roster { world with hosts := world.hosts.set host _ } host = _
    rw [List.set_eq_of_length_le (Nat.not_lt.mp inside)]

/-- What a pass achieves it also achieves when the binder is freed behind it. -/
theorem afterwards_achieves {Value : Type} {body : Run Value} {good : Value → Roster → Prop}
    (achieves : Achieves host world body good) (busy : Bool) :
    Achieves host world (Run.afterwards body (setBusy host busy)) good := by
  unfold Achieves Run.Ends at achieves ⊢
  rw [afterwards_run]
  intro value returned
  have same : roster ((setBusy host busy).run.run (body.run.run world).2).2 host =
      roster (body.run.run world).2 host := setBusy_aside busy _
  rw [same]
  exact achieves value returned

/-- The engine lists the entities, and the pass sifts the registry. -/
theorem bindAll_sifts (present : (roster world host).present = true) (proper : Proper (roster world host).registry)
    (discreet : Discreet call host (roster world host)) :
    Achieves host world (bindAll call host) fun result seen => ∀ report, result = .ok report →
      ∃ entities, world.engine.liveEntities (view world host).binder.cap = .ok entities ∧
        Sifted (roster world host) entities (view world host).binder.cap report seen := by
  cases idle : (view world host).binder.busy with
  | true =>
      unfold Achieves bindAll
      rw [Run.ends_bind, Run.ends_host, Run.followed_ok]
      dsimp only
      change ((world.hosts[host]?).getD .core).binder.busy = true at idle
      rw [if_pos idle]
      exact fun _ => nofun
  | false =>
      unfold Achieves
      rw [bindAll_ends idle]
      cases lists : world.engine.liveEntities (view world host).binder.cap with
      | error error =>
          intro result same report
          obtain rfl := Except.ok.inj same
          exact nofun
      | ok entities =>
          have binds : Achieves host world (do
              setBusy host true
              return .ok (← Run.afterwards (pass call host (view world host).binder.factories
                (view world host).binder.cap entities) (setBusy host false)))
              fun (result : Except NativeError BindReport) seen => ∀ report, result = .ok report →
                Sifted (roster world host) entities (view world host).binder.cap report seen := by
            refine (setBusy_aside true).retains.achieves.bind fun _ begun same => ?_
            rw [← same.1] at present proper discreet
            have sifts := pass_sifts entities present proper discreet (view world host).binder.cap
            rw [same.1] at sifts
            refine (afterwards_achieves sifts false).bind fun report last sifted => achieves_pure ?_
            intro other same
            obtain rfl := Except.ok.inj same
            exact sifted
          exact Run.Ends.mono binds fun _ _ holds result same report returned =>
            ⟨entities, rfl, holds result same report returned⟩

/-- The bare registry of a proper one is proper. -/
theorem Proper.bare {registry : Registry} (proper : Proper registry) : Proper (bareRegistry registry) where
  within := by
    intro id member
    change id < (registry.slots.map bareSlot).length
    rw [List.length_map]
    exact proper.within id member
  distinct := proper.distinct
  live := by
    intro id member slot held
    rw [bareRegistry_slot?, Option.map_eq_some_iff] at held
    obtain ⟨actual, found, rfl⟩ := held
    exact proper.live id member actual found

/-- As many entities are listed as are alive, up to the cap. -/
theorem length_live (store : EntityStore) (cap : Nat) : (store.live cap).length = min cap store.count := by
  rw [EntityStore.live, List.length_take, List.length_mergeSort]
  rfl

/-- A list that has room for all living entities lists them all. -/
theorem mem_live {store : EntityStore} {cap : Nat} (fits : store.count ≤ cap) {entity : Entity} :
    entity ∈ store.live cap ↔ entity ∈ store.alive := by
  have whole : (store.alive.mergeSort fun left right => left.bits ≤ right.bits).length ≤ cap := by
    rw [List.length_mergeSort]
    exact fits
  rw [EntityStore.live, List.take_of_length_le whole, List.mem_mergeSort]

/-- The behaviours of dead entities have left, and each was finalized once, or will be when its turn is over.
Nothing that is bound belongs to an entity that was dead when the entities were listed. -/
structure Swept (host : Nat) (world after : World) (report : BindReport) : Prop where
  whole : report.truncated = false
  alive : ∀ pair ∈ (after.registryOf host).bindings, pair.1 ∈ world.engine.store.alive
  disposed : ∀ id ∈ (world.registryOf host).registered, ∀ slot, (world.registryOf host).slots[id]? = some slot →
    ∀ pair, slot.receiver.binding? = some pair → pair.1 ∉ world.engine.store.alive →
      id ∉ (after.registryOf host).registered ∧
      (after.registryOf host).slots[id]?.map Schedule.Slot.phase = some (if slot.busy then .leaving else .gone) ∧
      finals host after.journal id = finals host world.journal id + if slot.busy then 0 else 1

/-- Nobody has left, and nobody was finalized. -/
structure Unswept (host : Nat) (world after : World) (report : BindReport) : Prop where
  cut : report.truncated = true
  pruned : report.pruned = 0
  stays : ∀ id ∈ (world.registryOf host).registered, id ∈ (after.registryOf host).registered
  spared : ∀ id, finals host after.journal id = finals host world.journal id

/-- Below the cap the pass removes exactly the behaviours of entities that are gone. -/
theorem Sifted.swept {cap : Nat} {report : BindReport} (proper : Proper (roster world host).registry)
    (fits : world.engine.store.count < cap)
    (sifted : Sifted (roster world host) (world.engine.store.live cap) cap report (roster after host)) :
    Swept host world after report := by
  have known : ∀ entity, entity ∈ world.engine.store.live cap ↔ entity ∈ world.engine.store.alive :=
    fun entity => mem_live (Nat.le_of_lt fits)
  have short : (world.engine.store.live cap).length < cap := by
    rw [length_live]
    exact Nat.lt_of_le_of_lt (Nat.min_le_right ..) fits
  obtain ⟨fresh, -, removed⟩ := sifted.whole short
  constructor
  · rw [sifted.truncated]
    exact decide_eq_false (Nat.not_le.mpr short)
  · intro pair bound
    rw [← bareRegistry_bindings] at bound
    obtain ⟨receiver, inside, binds⟩ := List.mem_filterMap.mp bound
    obtain ⟨id, member, found⟩ := List.mem_filterMap.mp inside
    obtain ⟨slot, held, rfl⟩ := Option.map_eq_some_iff.mp found
    change (roster after host).registry.slots[id]? = some slot at held
    rw [removed.kept member] at held
    have spared := (removed.stays.mp member).2
    rw [chosen_held held, ofOthers, binds] at spared
    simpa [known] using spared
  · intro id member slot held pair binds gone
    have inside := proper.within id member
    have seen := roster_held held
    have enrolled := (enrol_slot? fresh inside).trans seen
    have registered : id ∈ ((roster world host).enrol fresh).registry.registered := mem_enrol.mpr (Or.inl member)
    have chosen : ((roster world host).enrol fresh).registry.chosen (ofOthers (world.engine.store.live cap)) id =
        true := by
      rw [chosen_held enrolled, ofOthers, bareSlot, bare_binding?, binds]
      simpa [known] using gone
    have idle : ((roster world host).enrol fresh).idle id = !slot.busy := by
      rw [Roster.idle, enrolled]
      rfl
    refine ⟨fun stays => ?_, ?_, ?_⟩
    · rw [(removed.stays.mp stays).2] at chosen
      cases chosen
    · have left := removed.slots id
      rw [enrolled, Option.map_some, if_pos ⟨registered, chosen⟩] at left
      obtain ⟨actual, found, same⟩ := roster_shows left
      rw [found, Option.map_some]
      exact congrArg (fun slot => some (Schedule.Slot.phase slot)) same
    · rw [finals_moves, finals_moves, removed.ended, enrol_ended, idle]
      cases slot.busy <;> simp [registered, chosen]

/-- At the cap the pass removes nobody. -/
theorem Sifted.unswept {cap : Nat} {report : BindReport} (full : cap ≤ world.engine.store.count)
    (sifted : Sifted (roster world host) (world.engine.store.live cap) cap report (roster after host)) :
    Unswept host world after report := by
  have long : cap ≤ (world.engine.store.live cap).length := by
    rw [length_live]
    exact Nat.le_min.mpr ⟨Nat.le_refl cap, full⟩
  obtain ⟨pruned, fresh, same⟩ := sifted.cut long
  constructor
  · rw [sifted.truncated]
    exact decide_eq_true long
  · exact pruned
  · intro id member
    change id ∈ (roster after host).registry.registered
    rw [same]
    exact mem_enrol.mpr (Or.inl member)
  · intro id
    rw [finals_moves, finals_moves, same, enrol_ended]

/-- A bind that succeeds sweeps out the behaviours of dead entities if the living ones are fewer than the cap.
Otherwise it takes its list of entities to be cut, also when they are as many as the cap. -/
theorem bindAll_sweeps (present : host < world.hosts.length) (proper : Proper (world.registryOf host))
    (discreet : Discreet call host (roster world host)) :
    (bindAll call host).Ends world fun result after => ∀ report, result = .ok (.ok report) →
      (world.engine.store.count < (view world host).binder.cap → Swept host world after report) ∧
        ((view world host).binder.cap ≤ world.engine.store.count → Unswept host world after report) := by
  have shown : Proper (roster world host).registry := proper.bare
  apply Run.Ends.mono (bindAll_sifts (roster_present_iff.mpr present) shown discreet)
  intro result after holds report same
  obtain ⟨entities, lists, sifted⟩ := holds _ same report rfl
  have listed : entities = world.engine.store.live (view world host).binder.cap := by
    unfold Engine.liveEntities at lists
    cases code : world.engine.liveCode with
    | some error =>
        rw [code] at lists
        cases lists
    | none =>
        rw [code] at lists
        exact (Except.ok.inj lists).symm
  rw [listed] at sifted
  exact ⟨fun fewer => sifted.swept shown fewer, fun full => sifted.unswept full⟩

section Touching

variable {depth : Nat} {commands : List (Command Operation)}

/-- Commands that stir nothing may change the entities and the files, but not the scheduler. -/
theorem performAll_aside (calm : ∀ command ∈ commands, command.operation.stirs = false) (call : Caller) :
    Aside host (Perform.performAll call commands) := by
  induction commands with
  | nil => exact aside_pure ()
  | cons command rest ih =>
      obtain ⟨first, later⟩ := List.forall_mem_cons.mp calm
      unfold Perform.performAll Perform.perform
      have named : Aside host (Run.hostNamed command.host) := fun _ => rfl
      have performed : ∀ place, Aside host (Perform.operate call command.host place command.operation) :=
        fun place => aside_plain (Perform.operate_plain call command.host place first)
      exact (named.bind performed).bind fun answer => (aside_note rfl).bind fun _ => ih later

/-- A hook whose commands stir nothing moves nobody. -/
theorem hook_aside {hooked : Hooked}
    (calm : ∀ count, ∀ command ∈ (hooked.hook.turn count).commands, command.operation.stirs = false)
    (arguments : Arguments) : Aside host ((caller (depth + 1)).hook hooked arguments) := by
  have used : Aside host (Run.use hooked) := fun _ => rfl
  unfold caller
  refine (aside_note rfl).bind fun _ => used.bind fun count => ?_
  refine (performAll_aside (calm count) _).bind fun _ => (aside_note rfl).bind fun _ => ?_
  cases (hooked.hook.turn count).ending with
  | normal => exact aside_pure ()
  | failure context message => exact aside_throw _
  | panic message => exact aside_throw _

end Touching

/-- When this behaviour is attached the only living entity dies, and its disposal makes another one. -/
def fellingHooks : BehaviourHooks Operation where
  attach := ⟨fun _ => ⟨[⟨"", "", .destroy (.number (EntityStore.entityOf 1 0))⟩], .normal⟩⟩
  start := ⟨fun _ => ⟨[], .normal⟩⟩
  update := ⟨fun _ => ⟨[], .normal⟩⟩
  dispose := ⟨fun _ => ⟨[⟨"", "", .spawn none []⟩], .normal⟩⟩

def fellingFactory : Factory Operation where
  ask _ := ⟨[], .made fellingHooks⟩

/-- One entity lives, and a behaviour of a dead one is left. -/
def ruinWorld (cap : Nat) : World :=
  let orphan : Receiver := .behaviour ⟨0⟩ "wall" (.hooked ⟨0, "", fellingHooks.attach⟩
    ⟨1, "", fellingHooks.start⟩ ⟨2, "", fellingHooks.update⟩ ⟨3, "", fellingHooks.dispose⟩)
  { World.create ⟨[], []⟩ .lowest with
    engine := ((Engine.create Engine.standardInterval).spawn [("scripts", "[\"door\"]")]).1
    hosts := [{ Host.create [0] cap none with registry := ⟨[⟨orphan, true, .live, false⟩], [0], false⟩ }]
    factories := [⟨fellingFactory, 0, 0⟩]
    uses := [0, 0, 0, 0] }

/-- In the example all hooks and factories are discreet. -/
theorem ruinWorld_discreet (cap : Nat) : Discreet (caller 1) 0 (roster (ruinWorld cap) 0) where
  factories := by
    intro entry member
    obtain rfl := List.mem_singleton.mp member
    refine ⟨fun script => aside_pure (), fun script hooks made => ?_⟩
    obtain rfl := Offer.made.inj made
    exact fun _ _ _ => hook_aside (by simp [fellingHooks, Hook.panicking, Operation.stirs]) _
  disposals := by
    intro slot member _
    obtain rfl := List.mem_singleton.mp member
    exact hook_aside (by simp [fellingHooks, Operation.stirs]) _

/-- The registry of the example is proper. -/
theorem ruinWorld_proper (cap : Nat) : Proper ((ruinWorld cap).registryOf 0) where
  within := by simp [ruinWorld, registryOf]
  distinct := by simp [ruinWorld, registryOf]
  live := by
    intro id member slot held
    obtain rfl := List.mem_singleton.mp member
    obtain rfl := Option.some.inj held
    rfl

/-- There is room for another entity, so the behaviour of the dead one is swept out. -/
theorem bindAll_sweeps_ruin : ∃ report after,
    (bindAll (caller 1) 0).run.run (ruinWorld 2) = (.ok (.ok report), after) ∧
      (ruinWorld 2).engine.store.count < 2 ∧ Swept 0 (ruinWorld 2) after report ∧
      (after.registryOf 0).bindings = [(EntityStore.entityOf 1 0, "door")] ∧
      finals 0 after.journal 0 = 1 := by
  have present : 0 < (ruinWorld 2).hosts.length := by decide
  have sweeps := bindAll_sweeps present (ruinWorld_proper 2) (ruinWorld_discreet 2)
  have returned : ((bindAll (caller 1) 0).run.run (ruinWorld 2)).1 = .ok (.ok ⟨1, 1, 0, [], 1, false⟩) := by
    decide +kernel
  have fewer : (ruinWorld 2).engine.store.count < 2 := by decide +kernel
  refine ⟨_, _, Prod.ext returned rfl, fewer, (sweeps _ returned).1 fewer, ?_, ?_⟩
  · decide +kernel
  · decide +kernel

/-- There are as many entities as the cap allows, and the behaviour of the dead one stays. -/
theorem orphan_outlasts_full_list : ∃ report after,
    (bindAll (caller 1) 0).run.run (ruinWorld 1) = (.ok (.ok report), after) ∧
      (ruinWorld 1).engine.store.count ≤ (view (ruinWorld 1) 0).binder.cap ∧ report.truncated = true ∧
      (⟨0⟩, "wall") ∈ (after.registryOf 0).bindings ∧ ⟨0⟩ ∉ (ruinWorld 1).engine.store.alive ∧
      finals 0 after.journal 0 = 0 := by
  have returned : ((bindAll (caller 1) 0).run.run (ruinWorld 1)).1 = .ok (.ok ⟨1, 1, 0, [], 0, true⟩) := by
    decide +kernel
  refine ⟨_, _, Prod.ext returned rfl, ?_, rfl, ?_, ?_, ?_⟩ <;> decide +kernel

end ScriptHost.Session.Binding
