/-
This file shows that the operations that remove receivers keep the invariant.
-/
import ScriptHost.Proofs.Schedule.Steady

namespace ScriptHost.Session.Scheduler

open World (registryOf)
open Run (Returns Enacts)

/-- Hooks may manage receivers, and they may do nothing. In both cases they do no more than that. -/
structure Lawful (name : String) (host : Nat) (call : Caller) : Prop where
  managing : ∀ {waiting : List Nat} {running : Option Nat} {hooked : Hooked} {arguments : Arguments}
    {world : World}, hooked.hook.Managing name →
    Steady name host waiting running (world.note (.called hooked.id hooked.label arguments)) →
    (∀ receiver ∈ accepted (world.registryOf host), part? receiver hooked.id ≠ some .attach) →
    (call.hook hooked arguments).Ends world (Enacts (fun ending after =>
      ∃ last : World, after = last.note (.finished hooked.id arguments ending) ∧
        Steady name host waiting running last ∧
        Nested host (world.note (.called hooked.id hooked.label arguments)) last)
      (RecordedIn host))
  idle : ∀ {hooked : Hooked} {arguments : Arguments} {world : World}, hooked.hook.Idle →
    (call.hook hooked arguments).Ends world (Enacts (fun ending after =>
      ∃ uses : List Nat, uses.length = world.uses.length ∧
        after = ((world.note (.called hooked.id hooked.label arguments)).note
          (.finished hooked.id arguments ending)).count uses)
      (fun after => after = world))

variable {name : String} {host : Nat} {waiting : List Nat} {running : Option Nat} {call : Caller}
  {world : World}

/-- The run keeps the invariant, and it does no more than nested runs may. -/
def Keeps {α : Type} (name : String) (host : Nat) (waiting : List Nat) (running : Option Nat)
    (world : World) (body : Run α) : Prop :=
  body.Ends world (Returns (fun _ after =>
    Steady name host waiting running after ∧ Nested host world after) (RecordedIn host))

/-- Two runs that keep the invariant do so together. -/
theorem Keeps.bind {α β : Type} {body : Run α} {next : α → Run β} {before : List Nat}
    (first : Keeps name host before running world body)
    (rest : ∀ value after, Steady name host before running after → Nested host world after →
      Keeps name host waiting running after (next value)) :
    Keeps name host waiting running world (body >>= next) := by
  refine Run.Ends.returns first fun value after ⟨steady, nested⟩ => ?_
  refine (rest value after steady nested).relax fun _ last ⟨steady, later⟩ => ?_
  exact ⟨steady, nested.trans later⟩

/-- A run that only returns keeps the invariant. -/
theorem keeps_pure {α : Type} (steady : Steady name host waiting running world) (value : α) :
    Keeps name host waiting running world (pure value : Run α) :=
  ⟨steady, Nested.refl world⟩

/-- A managed receiver is finalized by a hook of its own. -/
theorem managed_finalizer {receiver : Receiver} (managed : Managed name receiver) (call : Caller)
    (host id : Nat) : ∃ hooked : Hooked, finalizer call host id receiver = call.hook hooked .none ∧
      hooked.hook.Managing name ∧ (hooked.id, Part.finalize) ∈ parts receiver := by
  rcases receiver with ⟨kind, logic⟩ | ⟨entity, script, ⟨attach, start, update, dispose⟩ | _⟩
  · exact ⟨logic.shutdown, rfl, managed.2, by simp [parts]⟩
  · exact ⟨dispose, rfl, managed.2.2.2, by simp [parts]⟩
  · exact managed.elim

/-- A receiver that the host has accepted or rejected. -/
def Belongs (host : Nat) (world : World) (receiver : Receiver) : Prop :=
  receiver ∈ accepted (world.registryOf host) ∨ Entry.rejected host receiver ∈ world.journal

/-- A receiver that belongs to a host does so later on. -/
theorem Belongs.later {receiver : Receiver} {after : World} (belongs : Belongs host world receiver)
    (nested : Nested host world after) : Belongs host after receiver := by
  obtain ⟨entries, since, -⟩ := nested.since
  refine belongs.imp (fun member => since.accepted.subset member) fun member => ?_
  rw [since.journal]
  exact List.mem_append_right _ member

/-- A hook that is called keeps the invariant until its end is written down. -/
theorem hook_ends (lawful : Lawful name host call) {receiver : Receiver} {hooked : Hooked}
    {arguments : Arguments} {part : Part} (managing : hooked.hook.Managing name)
    (belongs : Belongs host world receiver) (played : part? receiver hooked.id = some part)
    (later : part ≠ .attach)
    (steady : Steady name host waiting running
      (world.note (.called hooked.id hooked.label arguments))) :
    (Run.isolate (call.hook hooked arguments)).Ends world (Returns (fun fault after =>
      ∃ ending last, (fault = none ↔ ending = .normal) ∧
        after = last.note (.finished hooked.id arguments ending) ∧
        Steady name host waiting running last ∧ Belongs host last receiver ∧
        Nested host (world.note (.called hooked.id hooked.label arguments)) last)
      (RecordedIn host)) := by
  have noted : Belongs host (world.note (.called hooked.id hooked.label arguments)) receiver :=
    belongs.imp_right (List.mem_cons_of_mem _)
  have notAttach : ∀ other ∈ accepted (world.registryOf host),
      part? other hooked.id ≠ some .attach := by
    intro other inside attach
    exact later (steady.kept.plays noted played inside attach).symm
  refine (lawful.managing managing steady notAttach).isolate.relax ?_
  intro fault after holds
  obtain ⟨ending, outcome, last, same, steady, nested⟩ := holds
  exact ⟨ending, last, outcome, same, steady, noted.later nested, nested⟩

/-- The end of a hook may be written unless it is a start that ended well. -/
theorem Steady.finished (steady : Steady name host waiting running world) {receiver : Receiver}
    {hook : Nat} {part : Part} (belongs : Belongs host world receiver)
    (played : part? receiver hook = some part) (arguments : Arguments) {ending : Ending}
    (apart : part = .start → ending ≠ .normal) :
    Steady name host waiting running (world.note (.finished hook arguments ending)) where
  named := steady.named
  present := steady.present
  closed := by
    intro other given rest owner same inside begins
    obtain ⟨rfl, _, rfl⟩ := Entry.finished.inj (List.cons.inj same).1
    exact apart (steady.kept.plays belongs played inside begins).symm rfl
  kept := steady.kept.finish steady.closed arguments ending
    (steady.kept.known_of belongs (mem_hooks_of_part? played))

/-- The finalizer of a receiver is called and keeps the invariant. -/
theorem finalize_keeps (lawful : Lawful name host call) {receiver : Receiver} (id : Nat)
    (managed : Managed name receiver) (distinct : (hooks receiver).Nodup)
    (belongs : Belongs host world receiver)
    (steady : ∀ hooked : Hooked, (hooked.id, Part.finalize) ∈ parts receiver →
      Steady name host waiting running (world.note (.called hooked.id hooked.label .none))) :
    Keeps name host waiting running world (finalize call host id receiver) := by
  obtain ⟨hooked, called, managing, member⟩ := managed_finalizer managed call host id
  have played := part?_of_mem distinct member
  unfold Keeps finalize
  rw [called]
  refine (hook_ends lawful managing belongs played (by simp) (steady hooked member)).returns ?_
  intro fault after holds
  obtain ⟨ending, last, -, rfl, steady, belongs, nested⟩ := holds
  have settled := steady.finished belongs played .none
    (show Part.finalize = .start → ending ≠ .normal by simp)
  have all : Nested host world (last.note (.finished hooked.id .none ending)) :=
    ((Nested.note world (by simp) rfl).trans nested).trans (Nested.note last (by simp) rfl)
  cases fault with
  | none => exact ⟨settled, all⟩
  | some fault =>
      exact ⟨settled.note trivial rfl, all.trans (Nested.note _ (by simp) rfl)⟩

/-- What a slot comes to when it is finished. -/
def settled (slot : Slot) : Slot :=
  if ¬ slot.busy ∧ slot.phase = .leaving then { slot with phase := .gone } else slot

/-- A life goes on whatever phase it is in, unless the receiver is gone. -/
theorem Lives.change {slot : Slot} {heard : List Part} {phase : Schedule.Phase} {busy : Bool}
    (lives : Lives slot heard) (alive : slot.phase ≠ .gone) (still : phase ≠ .gone) :
    Lives { slot with phase, busy } heard := by
  obtain ⟨active, progress, same⟩ := lives
  refine ⟨active, progress, ?_⟩
  rw [if_neg alive] at same
  rw [same, if_neg still]

/-- A finalizer ends a life. -/
theorem Lives.finalize {slot : Slot} {heard : List Part} {busy : Bool}
    (lives : Lives slot heard) (alive : slot.phase ≠ .gone) :
    Lives { slot with phase := .gone, busy } (heard ++ [.finalize]) := by
  obtain ⟨active, progress, same⟩ := lives
  refine ⟨active, progress, ?_⟩
  rw [if_neg alive, List.append_nil] at same
  rw [same, if_pos rfl]

/-- A slot that has changed is finished, and its receiver is finalized if it is due. -/
theorem finish_keeps (lawful : Lawful name host call) {waiting' : List Nat} {running' : Option Nat}
    {id : Nat} {slot : Slot} (phase : Schedule.Phase) (busy : Bool)
    (steady : Steady name host waiting running world)
    (held : (world.registryOf host).slots[id]? = some slot) (alive : slot.phase ≠ .gone)
    (still : phase ≠ .gone)
    (apart : ∀ other ∈ waiting', other ∉ (world.registryOf host).registered ∧
      other < (world.registryOf host).slots.length)
    (once : waiting'.Nodup) (shift : Shift id waiting waiting' running running')
    (stands : Stands (id ∈ (world.registryOf host).registered ∨ id ∈ waiting') running' id
      (settled { slot with phase, busy })) :
    (finish call host id).Ends
      (world.putRegistry host ((world.registryOf host).setSlot id { slot with phase, busy }))
      (Returns (fun _ after => Steady name host waiting' running' after ∧ Nested host world after)
        (RecordedIn host)) := by
  have present := steady.present
  have inside := (List.getElem?_eq_some_iff.mp held).1
  have lives := steady.kept.lives id slot held
  have found : ((world.registryOf host).setSlot id { slot with phase, busy }).slots[id]? =
      some { slot with phase, busy } := List.getElem?_set_self inside
  unfold finish
  rw [Run.ends_bind, Run.ends_slot?, World.putRegistry_registryOf present, found, Run.followed_ok]
  dsimp only
  by_cases due : ¬ busy ∧ phase = .leaving
  · have gone : settled { slot with phase, busy } = { slot with phase := .gone, busy } := if_pos due
    -- The slot says that the receiver is gone before its finalizer runs, so nobody finalizes it again.
    have begun : Steady name host waiting running (world.note (.finalized host id)) :=
      steady.note trivial rfl
    have noted : Nested host world (world.note (.finalized host id)) := Nested.note world (by simp) rfl
    have changed : Nested host world ((world.note (.finalized host id)).putRegistry host
        ((world.registryOf host).setSlot id { slot with phase := .gone, busy })) :=
      noted.trans (Nested.setSlot begun.present held { slot with phase := .gone, busy } rfl rfl)
    rw [gone] at stands
    rw [if_pos due, Run.ends_bind, Run.ends_setSlot, Run.followed_ok,
      World.putRegistry_registryOf present, World.putRegistry_putRegistry present,
      Schedule.Registry.setSlot_setSlot, Run.ends_bind, Run.ends_note, Run.followed_ok, ← World.putRegistry_note]
    refine (finalize_keeps lawful id (steady.kept.managed _ (mem_accepted held))
      (steady.kept.distinct held) (Or.inl ?_) ?_).relax fun _ after kept =>
        ⟨kept.1, changed.trans kept.2⟩
    · rw [World.putRegistry_registryOf (by exact present),
        accepted_setSlot held { slot with phase := .gone, busy } rfl]
      exact mem_accepted held
    · intro hooked member
      have played := part?_of_mem (steady.kept.distinct held) member
      refine ⟨steady.named, ?_, closed_cons (by simp), ?_⟩
      · rw [World.note_hosts, World.putRegistry_length]
        exact present
      · rw [World.note_registryOf, World.putRegistry_registryOf (by exact present)]
        have heard : Lives { slot with phase := .gone, busy }
            (calls slot.receiver (world.note (.finalized host id)).journal ++ [.finalize]) := by
          rw [World.note_journal, calls_cons]
          simpa [heard?] using lives.finalize alive
        exact begun.kept.call held { slot with phase := .gone, busy } rfl played hooked.label
          .none apart once shift stands heard (begun.closed.answers _) (by simp [Part.ofTick])
  · have unchanged : settled { slot with phase, busy } = { slot with phase, busy } := if_neg due
    rw [unchanged] at stands
    rw [if_neg due, Run.ends_pure]
    refine ⟨⟨steady.named, ?_, ?_, ?_⟩, Nested.setSlot present held _ rfl rfl⟩
    · rw [World.putRegistry_length]
      exact present
    · rw [World.putRegistry_registryOf present]
      exact steady.closed.setSlot held _ rfl
    · rw [World.putRegistry_registryOf present]
      exact steady.kept.move held _ rfl apart once shift stands (lives.change alive still)

/-- The first receiver that waits is retired. -/
theorem retire_keeps (lawful : Lawful name host call) {id : Nat}
    (steady : Steady name host (id :: waiting) running world) :
    Keeps name host waiting running world (retire call host id) := by
  obtain ⟨out, inside⟩ := steady.kept.apart id List.mem_cons_self
  obtain ⟨fresh, once⟩ := List.nodup_cons.mp steady.kept.once
  have held : (world.registryOf host).slots[id]? = some (world.registryOf host).slots[id] :=
    List.getElem?_eq_getElem inside
  generalize (world.registryOf host).slots[id] = slot at held
  have stands := steady.kept.stands id slot held
  have live := stands.live (Or.inr List.mem_cons_self)
  unfold Keeps retire
  rw [Run.ends_bind, Run.ends_slot?, Run.followed_ok, held]
  dsimp only
  rw [if_pos live, Run.ends_bind, Run.ends_setSlot, Run.followed_ok]
  have lost : ¬ (id ∈ (world.registryOf host).registered ∨ id ∈ waiting) := by simp [out, fresh]
  refine finish_keeps lawful .leaving slot.busy steady held (by simp [live]) (by simp)
    (fun other member => steady.kept.apart other (List.mem_cons_of_mem _ member)) once
    ⟨fun other different => by simp [different], fun _ _ => Iff.rfl⟩ ?_
  by_cases runs : running = some id
  · have busy := stands.busy.mpr runs
    rw [settled, if_neg (by simp [busy])]
    exact ⟨fun held => absurd held lost, fun _ => Or.inr ⟨rfl, runs⟩, stands.busy, fun _ => by simp⟩
  · have idle : slot.busy = false := Bool.eq_false_iff.mpr fun busy => runs (stands.busy.mp busy)
    rw [settled, if_pos (by simp [idle])]
    exact ⟨fun held => absurd held lost, fun _ => Or.inl rfl, stands.busy, fun now => absurd now runs⟩

/-- Retiring several receivers keeps the invariant. -/
theorem retireAll_keeps (lawful : Lawful name host call) (ids : List Nat)
    (steady : Steady name host (ids ++ waiting) running world) :
    Keeps name host waiting running world (retireAll call host ids) := by
  induction ids generalizing world with
  | nil => exact keeps_pure steady ()
  | cons id ids ih => exact (retire_keeps lawful steady).bind fun _ after steady _ => ih steady

/-- Receivers are taken out of the registry. -/
theorem Nested.remove (present : host < world.hosts.length) {fewer : List Nat}
    (sublist : fewer.Sublist (world.registryOf host).registered) :
    Nested host world ((world.putRegistry host
      { world.registryOf host with registered := fewer }).note (.listed host fewer)) := by
  refine ⟨⟨[.listed host fewer], ⟨rfl, ?_, ?_, ?_⟩, by simp [Entry.ofTick]⟩, ?_⟩
  · rw [World.note_registryOf, World.putRegistry_registryOf present]
    exact List.prefix_rfl
  · intro ids member id inside _
    obtain ⟨_, rfl⟩ := Entry.listed.inj (List.mem_singleton.mp member)
    exact sublist.subset inside
  · intro id member _
    rw [World.note_registryOf, World.putRegistry_registryOf present] at member
    exact sublist.subset member
  · intro id slot held
    rw [World.note_registryOf, World.putRegistry_registryOf present]
    exact ⟨slot, held, rfl⟩

/-- Receivers are taken out, retired in turn, and then their removal is written down. -/
theorem removal_keeps {α : Type} (steady : Steady name host waiting running world)
    {fewer gone : List Nat} (once : gone.Nodup)
    (sublist : fewer.Sublist (world.registryOf host).registered)
    (split : ∀ id, id ∈ gone ↔ id ∈ (world.registryOf host).registered ∧ id ∉ fewer) {body : Run Unit}
    (retires : ∀ world, Steady name host (gone ++ waiting) running world →
      Keeps name host waiting running world body) (value : α) :
    Keeps name host waiting running world (do
      Run.setRegistry host { world.registryOf host with registered := fewer }
      body
      Run.note (.removed host gone)
      return value) := by
  have present := steady.present
  have taken : Steady name host (gone ++ waiting) running ((world.putRegistry host
      { world.registryOf host with registered := fewer }).note (.listed host fewer)) := by
    refine ⟨steady.named, ?_, closed_cons (by simp), ?_⟩
    · rw [World.note_hosts, World.putRegistry_length]
      exact present
    · rw [World.note_registryOf, World.putRegistry_registryOf present]
      exact steady.kept.remove steady.closed once sublist split
  have removed := Nested.remove present sublist
  unfold Keeps
  rw [Run.ends_bind, Run.ends_setRegistry, Run.followed_ok]
  refine Run.Ends.returns (retires _ taken) ?_
  intro _ after holds
  obtain ⟨steady, nested⟩ := holds
  obtain ⟨entries, since, _⟩ := nested.since
  have out : ∀ id ∈ gone, id ∉ (after.registryOf host).registered ∧
      id < (after.registryOf host).slots.length := by
    intro id member
    obtain ⟨inside, lost⟩ := (split id).mp member
    have bound := taken.kept.within
    have known := taken.kept.apart id (List.mem_append_left _ member)
    refine ⟨fun registered => known.1 (since.registered id registered known.2), ?_⟩
    exact Nat.lt_of_lt_of_le known.2 since.length
  rw [Run.ends_bind, Run.ends_note, Run.followed_ok, Run.ends_pure]
  refine ⟨⟨steady.named, steady.present, closed_cons (by simp), ?_⟩, ?_⟩
  · exact steady.kept.depart steady.closed out
  · exact (removed.trans nested).trans (Nested.note after (by simp) rfl)

/-- Removing receivers keeps the invariant. -/
theorem removeWhere_keeps (lawful : Lawful name host call) (choose : Receiver → Bool)
    (steady : Steady name host waiting running world) :
    Keeps name host waiting running world (removeWhere call host choose) := by
  unfold Keeps removeWhere
  rw [Run.ends_bind, Run.ends_registry steady.kept.unlocked, Run.followed_ok]
  refine removal_keeps steady ((steady.kept.orderly.increasing.imp Nat.ne_of_lt).filter _)
    List.filter_sublist ?_ (fun _ steady => retireAll_keeps lawful _ steady) _
  intro id
  simp only [List.mem_filter, not_and, Bool.not_eq_true', Bool.not_eq_false]
  constructor
  · exact fun ⟨inside, chosen⟩ => ⟨inside, fun _ => chosen⟩
  · exact fun ⟨inside, chosen⟩ => ⟨inside, chosen inside⟩

/-- Unregistering a receiver keeps the invariant. -/
theorem unregister_keeps (lawful : Lawful name host call) (id : Nat)
    (steady : Steady name host waiting running world) :
    Keeps name host waiting running world (unregister call host id) := by
  unfold Keeps unregister
  rw [Run.ends_bind, Run.ends_registry steady.kept.unlocked, Run.followed_ok]
  split
  · next registered =>
      have member : id ∈ (world.registryOf host).registered := by
        simpa [Schedule.Registry.isRegistered] using registered
      refine removal_keeps steady (List.nodup_singleton id) List.filter_sublist ?_
        (fun _ steady => retire_keeps lawful steady) true
      intro other
      simp only [List.mem_singleton, List.mem_filter, bne_iff_ne, ne_eq, not_and, not_not]
      constructor
      · rintro rfl
        exact ⟨member, fun _ => rfl⟩
      · intro holds
        obtain ⟨inside, same⟩ := holds
        exact same inside
  · exact keeps_pure steady false

end ScriptHost.Session.Scheduler
