/-
This file shows that a tick keeps the invariant, and that it is a round over the receivers that are
registered when it begins.
-/
import ScriptHost.Proofs.Schedule.Turns

namespace ScriptHost.Session.Scheduler

open World (registryOf)
open Run (Returns Enacts)

variable {name : String} {host : Nat} {call : Caller} {before after world : World}
  {signal : Tick.Signal}

/-- In a steady world no two receivers share a hook. -/
theorem Steady.separate {waiting : List Nat} {running : Option Nat}
    (steady : Steady name host waiting running world) :
    Separate (accepted (world.registryOf host)) := by
  intro first second one other hook left right of too
  rw [accepted_getElem?] at left right
  obtain ⟨oneSlot, oneHeld, rfl⟩ := Option.map_eq_some_iff.mp left
  obtain ⟨otherSlot, otherHeld, rfl⟩ := Option.map_eq_some_iff.mp right
  exact steady.kept.owner oneHeld otherHeld of too

/-- The entries since then explain how the listing has changed. -/
theorem Since.listing {entries : List Entry} {waiting waiting' : List Nat}
    {running running' : Option Nat} (since : Since host entries before after)
    (first : Steady name host waiting running before)
    (last : Steady name host waiting' running' after) :
    listedAfter host (before.registryOf host).registered entries.reverse =
      (after.registryOf host).registered := by
  have former := first.kept.story.current
  have current := last.kept.story.current
  rw [since.journal, List.reverse_append, listedAfter_append, former] at current
  exact current

/-- Places stay within the registry while a turn is open. -/
theorem Opened.within {id : Nat} {first : Entry} {ticks : List Entry} {ids : List Nat}
    (opened : Opened host id first ticks before after)
    (within : ∀ other ∈ ids, other < (before.registryOf host).slots.length) :
    ∀ other ∈ ids, other < (after.registryOf host).slots.length := by
  obtain ⟨segment, since, -⟩ := opened.since
  exact fun other member => Nat.lt_of_lt_of_le (within other member) since.length

/-- The rest of a tick is a round over the rest of its receivers. -/
structure Ticked (name : String) (host : Nat) (signal : Tick.Signal) (ids : List Nat)
    (counts : Nat × Nat) (world : World) (totals : Nat × Nat) (after : World) : Prop where
  steady : Steady name host [] none after
  round : ∃ entries visits, Since host entries world after ∧
    Round host signal (accepted (after.registryOf host)) (world.registryOf host).slots
      (world.registryOf host).registered ids entries.reverse visits ∧
    Opens host (accepted (after.registryOf host)) ids entries.reverse ∧
    totals = (counts.1 + visits.length, counts.2 + visits.countP Visit.faulty)

/-- A receiver that was taken out is passed over. -/
theorem Ticked.skip {id : Nat} {ids : List Nat} {counts totals : Nat × Nat}
    (ticked : Ticked name host signal ids counts world totals after)
    (lost : id ∉ (world.registryOf host).registered) (later : ∀ other ∈ ids, id < other) :
    Ticked name host signal (id :: ids) counts world totals after := by
  obtain ⟨steady, entries, visits, since, round, opens, same⟩ := ticked
  refine ⟨steady, entries, visits, since, round.skip opens lost later, ?_, same⟩
  obtain ⟨lead, turns, split, still, opens⟩ := opens
  refine ⟨lead, turns, split, still, fun first rest begins => ?_⟩
  obtain ⟨other, member, reached⟩ := opens first rest begins
  exact ⟨other, List.mem_cons_of_mem _ member, reached⟩

/-- The beginning of a turn tells nothing of its own. -/
theorem Ticked.begun {id : Nat} {ids : List Nat} {counts totals : Nat × Nat}
    (ticked : Ticked name host signal ids counts (world.note (.turnBegan host id)) totals after) :
    Ticked name host signal ids counts world totals after := by
  obtain ⟨steady, entries, visits, since, round, opens, same⟩ := ticked
  have still : Still host [.turnBegan host id] := by simp [Still, Entry.ofTick]
  refine ⟨steady, entries ++ [.turnBegan host id], visits,
    (Since.note world (by simp)).trans since, ?_, ?_, same⟩
  · rw [List.reverse_append, List.reverse_singleton, ← List.append_nil (_ ++ _)]
    exact round.frame still (by simp [Still])
  · obtain ⟨lead, turns, split, quiet, opens⟩ := opens
    refine ⟨.turnBegan host id :: lead, turns, ?_, ?_, opens⟩
    · rw [List.reverse_append, List.reverse_singleton, split]
      rfl
    · exact List.forall_mem_cons.mpr ⟨still _ List.mem_cons_self, quiet⟩

/-- A receiver that is still registered is visited. -/
theorem Ticked.visit {id : Nat} {ids : List Nat} {counts totals : Nat × Nat} {slot : Slot}
    {middle : World} {first : Entry} {ticks : List Entry} {faulty : Bool}
    (ticked : Ticked name host signal ids (counts.1 + 1, counts.2 + faulty.toNat) middle totals after)
    (steady : Steady name host [] none world) (settled : Steady name host [] none middle)
    (held : (world.registryOf host).slots[id]? = some slot)
    (registered : id ∈ (world.registryOf host).registered) (later : ∀ other ∈ ids, id < other)
    (within : ∀ other ∈ ids, other < (world.registryOf host).slots.length)
    (opened : Opened host id first ticks world middle) (begins : first.ofTick = true)
    (turn : Turn signal slot.receiver slot.started (first :: ticks))
    (fault : faulty = (first :: ticks).any Entry.faulty) :
    Ticked name host signal (id :: ids) counts world totals after := by
  obtain ⟨rested, entries, visits, since, round, opens, same⟩ := ticked
  obtain ⟨segment, opening, rfl⟩ := opened.since
  have listing := opening.listing steady settled
  rw [List.reverse_append, List.reverse_singleton, List.singleton_append] at listing
  rw [← listing] at round
  have whole := opening.trans since
  have receiver : (accepted (after.registryOf host))[id]? = some slot.receiver := by
    have inside := (List.getElem?_eq_some_iff.mp held).1
    rw [← accepted_length] at inside
    obtain ⟨more, grown⟩ := whole.accepted
    rw [← grown, List.getElem?_append_left inside, accepted_getElem?, held, Option.map_some]
  have former : Round host signal (accepted (after.registryOf host)) (world.registryOf host).slots
      (listedAfter host (world.registryOf host).registered (first :: segment.reverse)) ids
      entries.reverse visits := by
    refine round.earlier fun other member found read => ?_
    have inside := within other member
    have stored : (world.registryOf host).slots[other]? =
        some (world.registryOf host).slots[other] := List.getElem?_eq_getElem inside
    obtain ⟨last, again, started⟩ := opened.others other _ (Nat.ne_of_gt (later other member)) stored
    obtain rfl := Option.some.inj (again.symm.trans read)
    exact ⟨_, stored, opening.receiver stored read, started⟩
  have visited := former.visit rested.separate receiver held registered later begins turn
  refine ⟨rested, entries ++ (segment ++ [first]),
    ⟨id, first :: segment.reverse.filter Entry.ofTick⟩ :: visits, whole, ?_, ?_, ?_⟩
  · rw [List.reverse_append, List.reverse_append, List.reverse_singleton, List.singleton_append]
    exact visited
  · rw [List.reverse_append, List.reverse_append, List.reverse_singleton, List.singleton_append]
    refine ⟨[], _, rfl, by simp [Still], fun opening rest same => ?_⟩
    obtain ⟨rfl, -⟩ := List.cons.inj same
    exact ⟨id, List.mem_cons_self, turn.reaches receiver⟩
  · have counted : Visit.faulty ⟨id, first :: segment.reverse.filter Entry.ofTick⟩ = faulty := fault.symm
    rw [same, List.length_cons, List.countP_cons, counted]
    cases faulty <;> simp <;> omega

/-- A tick visits its receivers one after the other. -/
theorem runAll_ticked (lawful : Lawful name host call) (signal : Tick.Signal) (ids : List Nat)
    (increasing : ids.Pairwise (· < ·)) (counts : Nat × Nat)
    (steady : Steady name host [] none world)
    (within : ∀ id ∈ ids, id < (world.registryOf host).slots.length) :
    (runAll call host signal ids counts).Ends world
      (Returns (Ticked name host signal ids counts world) (RecordedIn host)) := by
  -- The world changes from turn to turn, so the induction has to hold of any steady world.
  induction ids generalizing world counts with
  | nil => exact ⟨steady, [], [], Since.refl world, round_nil, ⟨[], [], rfl, by simp [Still], by simp⟩, rfl⟩
  | cons id ids ih =>
      obtain ⟨later, increasing⟩ := List.pairwise_cons.mp increasing
      have inside := within id List.mem_cons_self
      have bounded : ∀ other ∈ ids, other < (world.registryOf host).slots.length :=
        fun other member => within other (List.mem_cons_of_mem _ member)
      have held : (world.registryOf host).slots[id]? = some (world.registryOf host).slots[id] :=
        List.getElem?_eq_getElem inside
      generalize (world.registryOf host).slots[id] = slot at held
      have read : ((world.hosts[host]?).getD .core).registry.slot? id = some slot := held
      unfold runAll
      rw [Run.ends_bind, Run.ends_host, Run.followed_ok]
      dsimp only
      rw [read]
      dsimp only
      split
      · next registered =>
          have member : id ∈ (world.registryOf host).registered :=
            List.contains_iff_mem.mp registered
          have begun : Steady name host [] none (world.note (.turnBegan host id)) :=
            steady.note trivial rfl
          refine (turn_turned lawful steady held member signal).returns ?_
          intro fault middle holds
          obtain ⟨settled, first, ticks, opened, begins, turn, faulty⟩ := holds
          cases fault with
          | none =>
              refine (ih increasing (counts.1 + 1, counts.2) settled (opened.within bounded)).relax ?_
              exact fun _ _ ticked => (ticked.visit begun settled held member later bounded opened begins
                turn faulty).begun
          | some fault =>
              have told : Nested host middle (middle.note (.reported
                (faultRecord slot.receiver signal fault))) := Nested.note middle (by simp) rfl
              have noted : Steady name host [] none (middle.note (.reported
                (faultRecord slot.receiver signal fault))) := settled.note trivial rfl
              have reported := opened.later (told.meanwhile id)
              rw [List.append_nil] at reported
              rw [Run.ends_bind, Run.ends_report, Run.followed_ok]
              refine (ih increasing (counts.1 + 1, counts.2 + 1) noted (reported.within bounded)).relax ?_
              exact fun _ _ ticked => (ticked.visit begun noted held member later bounded reported begins
                turn faulty).begun
      · next absent =>
          have lost : id ∉ (world.registryOf host).registered :=
            fun member => absent (List.contains_iff_mem.mpr member)
          exact (ih increasing counts steady bounded).relax fun _ _ ticked => ticked.skip lost later

/-- Loose units leave the registry alone and report what they have to. -/
theorem runLoose_keeps (steady : Steady name host [] none world) (signal : Tick.Signal) :
    (runLoose host signal).Ends world (Returns (fun _ after => Steady name host [] none after ∧
      after.registryOf host = world.registryOf host ∧
      ∃ last, after.journal = last ++ world.journal ∧ Still host last) (RecordedIn host)) := by
  have present := steady.present
  unfold runLoose
  rw [Run.ends_bind, Run.ends_runtime?, Run.followed_ok]
  cases ((world.hosts[host]?).getD .core).runtime with
  | none => exact ⟨steady, rfl, [], rfl, by simp [Still]⟩
  | some runtime =>
      dsimp only
      rw [Run.ends_bind, Run.ends_note, Run.followed_ok, Run.ends_outside]
      generalize Prod.snd _ = outside
      have begun : Steady name host [] none
          (world.note (.unitsBegan host runtime.scripts.active.names signal)) := steady.note trivial rfl
      have told := begun.notes (outside.records.map Entry.reported).reverse (by simp [Plain, Entry.hook?])
      have registry : ((world.note (.unitsBegan host runtime.scripts.active.names signal)).leave host
          outside).registryOf host = world.registryOf host := World.leave_registryOf present outside
      refine ⟨told.congr rfl (by simpa [World.leave] using present) registry rfl (Nat.le_refl _), registry,
        (outside.records.map Entry.reported).reverse ++
          [.unitsBegan host runtime.scripts.active.names signal], ?_, ?_⟩
      · simp [World.leave]
      · intro entry member
        simp only [List.mem_append, List.mem_reverse, List.mem_map, List.mem_singleton] at member
        rcases member with ⟨record, -, rfl⟩ | rfl <;> simp [Entry.ofTick]

/-- The trace of a tick is a round over the receivers that were registered before, and its report counts
the visits. -/
def Reported (host : Nat) (signal : Tick.Signal) (world : World) (report : TickReport)
    (after : World) : Prop :=
  ∃ trace visits, after.journal = trace.reverse ++ world.journal ∧
    Round host signal (accepted (after.registryOf host)) (world.registryOf host).slots
      (world.registryOf host).registered (world.registryOf host).registered trace visits ∧
    report.invoked = visits.length ∧ report.faults = visits.countP Visit.faulty

/-- A tick comes to its end, and its report is that of a round. -/
theorem tick_reported (lawful : Lawful name host call) (steady : Steady name host [] none world)
    (signal : Tick.Signal) :
    (tick call host signal).Ends world (Returns (fun report after =>
      Steady name host [] none after ∧ Reported host signal world report after) (RecordedIn host)) := by
  have begun : Steady name host [] none (world.note (.tickBegan host signal)) := steady.note trivial rfl
  unfold tick
  rw [Run.ends_bind, Run.ends_registry steady.kept.unlocked, Run.followed_ok, Run.ends_bind,
    Run.ends_note, Run.followed_ok]
  refine (runAll_ticked lawful signal _ steady.kept.orderly.increasing (0, 0) begun
    steady.kept.within).returns ?_
  intro counts middle holds
  obtain ⟨invoked, faults⟩ := counts
  obtain ⟨settled, entries, visits, since, round, -, same⟩ := holds
  refine (runLoose_keeps settled signal).returns ?_
  intro units after holds
  obtain ⟨rested, registry, last, journal, still⟩ := holds
  obtain ⟨invocations, failures⟩ := Prod.mk.inj same
  rw [← registry] at round
  have begins : Still host [.tickBegan host signal] := by simp [Still, Entry.ofTick]
  have ends : Still host last.reverse := fun entry member => still entry (List.mem_reverse.mp member)
  rw [Run.ends_pure]
  refine ⟨rested, _, visits, ?_, round.frame begins ends, ?_, ?_⟩
  · rw [journal, since.journal]
    simp
  · simpa using invocations
  · simpa using failures

end ScriptHost.Session.Scheduler
