/-
This file shows that the turn of a receiver keeps the invariant, and says what the turn writes.
-/
import ScriptHost.Proofs.Schedule.Removal
import ScriptHost.Proofs.Schedule.Rounds

namespace ScriptHost.Session.Scheduler

open World (registryOf)
open Run (Returns Enacts)

variable {name : String} {host : Nat} {waiting : List Nat} {running : Option Nat} {call : Caller}
  {before middle after world : World} {id : Nat} {slot : Slot} {hooked : Hooked} {part : Part}
  {arguments : Arguments} {signal : Tick.Signal}

/-- The tick writes these entries of its own meanwhile, and it starts no receiver but this one. -/
structure Meanwhile (host id : Nat) (ticks : List Entry) (before after : World) : Prop where
  since : ∃ entries, Since host entries before after ∧ entries.reverse.filter Entry.ofTick = ticks
  others : ∀ (other : Nat) (slot : Slot), other ≠ id →
    (before.registryOf host).slots[other]? = some slot →
    ∃ later, (after.registryOf host).slots[other]? = some later ∧ later.started = slot.started

/-- A nested run may happen meanwhile. -/
theorem Nested.meanwhile (nested : Nested host before after) (id : Nat) :
    Meanwhile host id [] before after := by
  obtain ⟨entries, since, quiet⟩ := nested.since
  refine ⟨⟨entries, since, ?_⟩, fun other slot _ held => nested.started other slot held⟩
  rw [List.filter_eq_nil_iff]
  intro entry member
  rw [quiet entry (List.mem_reverse.mp member)]
  exact Bool.false_ne_true

/-- A note about the tick may be written meanwhile. -/
theorem Meanwhile.note (id : Nat) (world : World) {entry : Entry} (plain : ∀ ids, entry ≠ .listed host ids)
    (ofTick : entry.ofTick = true) : Meanwhile host id [entry] world (world.note entry) :=
  ⟨⟨[entry], Since.note world plain, by simp [ofTick]⟩, fun _ slot _ held => ⟨slot, held, rfl⟩⟩

/-- The turn begins with one entry of the tick, and more of them follow. -/
structure Opened (host id : Nat) (first : Entry) (ticks : List Entry) (before after : World) : Prop where
  since : ∃ segment, Since host (segment ++ [first]) before after ∧
    segment.reverse.filter Entry.ofTick = ticks
  others : ∀ (other : Nat) (slot : Slot), other ≠ id →
    (before.registryOf host).slots[other]? = some slot →
    ∃ later, (after.registryOf host).slots[other]? = some later ∧ later.started = slot.started

/-- A turn that is open stays so meanwhile. -/
theorem Opened.later {first : Entry} {ticks more : List Entry}
    (opened : Opened host id first ticks before middle) (next : Meanwhile host id more middle after) :
    Opened host id first (ticks ++ more) before after := by
  obtain ⟨segment, since, ticks⟩ := opened.since
  obtain ⟨entries, later, more⟩ := next.since
  refine ⟨⟨entries ++ segment, ?_, ?_⟩, ?_⟩
  · rw [List.append_assoc]
    exact since.trans later
  · rw [List.reverse_append, List.filter_append, ticks, more]
  · intro other slot different held
    obtain ⟨between, read, same⟩ := opened.others other slot different held
    obtain ⟨last, found, started⟩ := next.others other between different read
    exact ⟨last, found, started.trans same⟩

/-- A turn opens with its slot and its first note. -/
theorem Opened.begin (present : host < world.hosts.length)
    (held : (world.registryOf host).slots[id]? = some slot) (changed : Slot)
    (same : changed.receiver = slot.receiver) {first : Entry} (plain : ∀ ids, first ≠ .listed host ids) :
    Opened host id first [] world ((world.putRegistry host
      ((world.registryOf host).setSlot id changed)).note first) := by
  refine ⟨⟨[], (Since.setSlot present held changed same).trans (Since.note _ plain), rfl⟩, ?_⟩
  intro other found different read
  rw [World.note_registryOf, World.putRegistry_registryOf present]
  exact ⟨found, (List.getElem?_set_ne (Ne.symm different)).trans read, rfl⟩

/-- A receiver that is still registered begins its turn with the call of a hook. -/
theorem Steady.begin (steady : Steady name host waiting none world)
    (held : (world.registryOf host).slots[id]? = some slot)
    (registered : id ∈ (world.registryOf host).registered)
    (played : part? slot.receiver hooked.id = some part) (changed : Slot)
    (same : changed.receiver = slot.receiver) (phase : changed.phase = slot.phase)
    (busy : changed.busy = true)
    (lives : Lives changed (calls slot.receiver world.journal ++ [part])) (arguments : Arguments) :
    Steady name host waiting (some id) ((world.putRegistry host
      ((world.registryOf host).setSlot id changed)).note
        (.called hooked.id hooked.label arguments)) := by
  have present := steady.present
  have live := (steady.kept.stands id slot held).live (Or.inl registered)
  refine ⟨steady.named, by simpa using present, closed_cons (by simp), ?_⟩
  rw [World.note_registryOf, World.putRegistry_registryOf present]
  refine steady.kept.call held changed same played hooked.label arguments steady.kept.apart
    steady.kept.once ⟨fun _ _ => Iff.rfl, fun other different => by simp [Ne.symm different]⟩
    ⟨fun _ => phase.trans live, fun lost => absurd (Or.inl registered) lost, by simp [busy],
      fun _ => by simp [phase, live]⟩ lives (steady.closed.answers _) ?_
  intro _ removed
  exact absurd registered (steady.kept.story.left id removed).1

/-- Setting a slot to what it is changes nothing. -/
theorem setSlot_self {registry : Registry} (held : registry.slots[id]? = some slot) :
    registry.setSlot id slot = registry := by
  have same : registry.slots.set id slot = registry.slots := by
    apply List.ext_getElem?
    intro index
    rw [List.getElem?_set]
    split
    · next equal =>
        subst equal
        rw [if_pos (List.getElem?_eq_some_iff.mp held).1, held]
    · rfl
  rw [Schedule.Registry.setSlot, same]

/-- A turn ends when the receiver is no longer busy and has been finalized if that was put off. -/
theorem end_keeps (lawful : Lawful name host call)
    (steady : Steady name host waiting (some id) world) :
    (do
      setBusy host id false
      finish call host id : Run Unit).Ends world (Returns (fun _ after =>
        Steady name host waiting none after ∧ Nested host world after) (RecordedIn host)) := by
  have inside := steady.kept.inside id rfl
  have held : (world.registryOf host).slots[id]? = some (world.registryOf host).slots[id] :=
    List.getElem?_eq_getElem inside
  generalize (world.registryOf host).slots[id] = slot at held
  have stands := steady.kept.stands id slot held
  have alive := stands.unfinished rfl
  unfold setBusy
  rw [Run.ends_bind, Run.ends_bind, Run.ends_slot?, Run.followed_ok, held]
  dsimp only
  rw [Run.ends_setSlot, Run.followed_ok]
  refine finish_keeps lawful slot.phase false steady held alive alive steady.kept.apart steady.kept.once
    ⟨fun _ _ => Iff.rfl, fun other different => by simp [Ne.symm different]⟩ ?_
  by_cases remains : id ∈ (world.registryOf host).registered ∨ id ∈ waiting
  · have live := stands.live remains
    rw [settled, if_neg (by simp [live])]
    exact ⟨fun _ => live, fun lost => absurd remains lost, by simp, by simp⟩
  · have leaving : slot.phase = .leaving := by
      rcases stands.ended remains with gone | leaving
      · exact absurd gone alive
      · exact leaving.1
    rw [settled, if_pos (by simp [leaving])]
    exact ⟨fun held => absurd held remains, fun _ => Or.inl rfl, by simp, by simp⟩

/-- A life that goes on may progress. -/
theorem Lives.progress {heard : List Part} (lives : Lives slot heard) (alive : slot.phase ≠ .gone) :
    Progress slot heard := by
  obtain ⟨active, progress, same⟩ := lives
  rw [if_neg alive, List.append_nil] at same
  rwa [same]

/-- What has progressed is a life that goes on. -/
theorem Progress.lives {heard : List Part} (progress : Progress slot heard)
    (alive : slot.phase ≠ .gone) : Lives slot heard :=
  ⟨heard, progress, by rw [if_neg alive, List.append_nil]⟩

/-- A hook of the tick runs while its receiver is busy. -/
theorem turn_hook (lawful : Lawful name host call) (steady : Steady name host waiting none world)
    (held : (world.registryOf host).slots[id]? = some slot)
    (registered : id ∈ (world.registryOf host).registered) (managing : hooked.hook.Managing name)
    (played : part? slot.receiver hooked.id = some part) (later : part ≠ .attach) (changed : Slot)
    (same : changed.receiver = slot.receiver) (phase : changed.phase = slot.phase)
    (busy : changed.busy = true)
    (lives : Lives changed (calls slot.receiver world.journal ++ [part])) (arguments : Arguments) :
    (Run.isolate (call.hook hooked arguments)).Ends
      (world.putRegistry host ((world.registryOf host).setSlot id changed)) (Returns (fun fault after =>
        ∃ ending last, (fault = none ↔ ending = .normal) ∧
          after = last.note (.finished hooked.id arguments ending) ∧
          Steady name host waiting (some id) last ∧ Belongs host last slot.receiver ∧
          Nested host ((world.putRegistry host ((world.registryOf host).setSlot id changed)).note
            (.called hooked.id hooked.label arguments)) last)
        (RecordedIn host)) := by
  have present := steady.present
  refine hook_ends lawful managing (Or.inl ?_) played later
    (steady.begin held registered played changed same phase busy lives arguments)
  rw [World.putRegistry_registryOf present, accepted_setSlot held changed same]
  exact mem_accepted held

/-- The turn of a receiver has gone as far as the fault tells, and its slot is still busy. -/
structure Turned (name : String) (host : Nat) (waiting : List Nat) (id : Nat) (slot : Slot)
    (signal : Tick.Signal) (world : World) (fault : Option Fault) (after : World) : Prop where
  steady : Steady name host waiting (some id) after
  opened : ∃ first ticks, Opened host id first ticks world after ∧ first.ofTick = true ∧
    Turn signal slot.receiver slot.started (first :: ticks) ∧
    fault.isSome = (first :: ticks).any Entry.faulty

/-- One hook makes up the turn of a system, and that of a behaviour that has been started. -/
theorem single_turn {ending : Ending} {fault : Option Fault} {last : World} {changed : Slot}
    (present : host < world.hosts.length)
    (held : (world.registryOf host).slots[id]? = some slot)
    (nested : Nested host ((world.putRegistry host ((world.registryOf host).setSlot id changed)).note
      (.called hooked.id hooked.label arguments)) last)
    (same : changed.receiver = slot.receiver) (ofTick : arguments.ofTick = true)
    (outcome : fault = none ↔ ending = .normal)
    (steady : Steady name host waiting (some id) last) (belongs : Belongs host last slot.receiver)
    (played : part? slot.receiver hooked.id = some part) (apart : part = .start → ending ≠ .normal)
    (turn : Turn signal slot.receiver slot.started [.called hooked.id hooked.label arguments,
      .finished hooked.id arguments ending]) :
    Turned name host waiting id slot signal world fault
      (last.note (.finished hooked.id arguments ending)) where
  steady := steady.finished belongs played arguments apart
  opened := by
    refine ⟨.called hooked.id hooked.label arguments, [.finished hooked.id arguments ending], ?_, ofTick,
      turn, ?_⟩
    · exact ((Opened.begin present held changed same (by simp)).later (nested.meanwhile id)).later
        (Meanwhile.note id last (by simp) ofTick)
    · cases fault <;> simp_all [Entry.faulty]

/-- After a start that ended well, the receiver is updated even if it has been removed meanwhile. -/
theorem Steady.resume {entity : Entity} {script : String} {attach start update dispose : Hooked}
    {later : Slot} (steady : Steady name host waiting (some id) middle)
    (held : (middle.registryOf host).slots[id]? = some later)
    (receiver : later.receiver = .behaviour entity script (.hooked attach start update dispose))
    (started : later.started = true) {label : String} {during : List Entry}
    (journal : middle.journal = during ++ .called start.id label arguments :: world.journal)
    (quiet : ∀ entry ∈ during, entry.ofTick = false) (stayed : ¬ Removed host id world.journal) :
    Steady name host waiting (some id) ((middle.note (.finished start.id arguments .normal)).note
      (.called update.id update.label arguments)) := by
  have distinct := steady.kept.distinct held
  have begins : part? later.receiver start.id = some .start :=
    part?_of_mem distinct (by simp [receiver, parts])
  have updates : part? later.receiver update.id = some .update :=
    part?_of_mem distinct (by simp [receiver, parts])
  have alive := (steady.kept.stands id later held).unfinished rfl
  have known := steady.kept.known_of (Or.inl (mem_accepted held)) (mem_hooks_of_part? begins)
  have kept := steady.kept.finish steady.closed arguments .normal known
  have lives : Lives later (calls later.receiver
      (.finished start.id arguments .normal :: middle.journal) ++ [.update]) := by
    refine Progress.lives ?_ alive
    have progress := (kept.lives id later held).progress alive
    unfold Progress at progress ⊢
    rw [receiver] at progress ⊢
    simp only [started, if_true] at progress ⊢
    obtain ⟨updates, same⟩ := progress
    refine ⟨updates + 1, ?_⟩
    rw [same, List.replicate_succ', List.append_assoc]
  have answers : Answers (middle.registryOf host)
      (.finished start.id arguments .normal :: middle.journal)
      (.called update.id update.label arguments) := by
    intro hook given rest other same member played
    obtain ⟨rfl, _, _⟩ := Entry.finished.inj (List.cons.inj same).1
    obtain ⟨index, read⟩ := List.mem_iff_getElem?.mp member
    rw [accepted_getElem?] at read
    obtain ⟨found, stored, rfl⟩ := Option.map_eq_some_iff.mp read
    obtain rfl := kept.owner stored held (mem_hooks_of_part? played) (mem_hooks_of_part? begins)
    obtain rfl := Option.some.inj (stored.symm.trans held)
    exact ⟨update.id, _, _, updates, rfl⟩
  refine ⟨steady.named, steady.present, closed_cons (by simp), ?_⟩
  have called := kept.call held later rfl updates update.label arguments kept.apart kept.once
    (Shift.none id waiting (some id)) (kept.stands id later held) lives answers fun _ _ =>
      ⟨rfl, start.id, label, arguments, during, world.journal, begins, by rw [journal], quiet, stayed⟩
  rwa [setSlot_self held] at called

/-- The logic of a behaviour is read from its slot. -/
theorem ends_currentLogic (logic : BehaviourLogic)
    (post : Except Raised BehaviourLogic → World → Prop) :
    (currentLogic host id logic).Ends world post ↔
      post (.ok ((((world.registryOf host).slots[id]?).bind fun slot =>
        logic? slot.receiver).getD logic)) world := Iff.rfl

/-- The update follows the start in the same turn. -/
theorem resume_turned (lawful : Lawful name host call) {entity : Entity} {script : String}
    {attach start update dispose : Hooked} (present : host < world.hosts.length)
    (held : (world.registryOf host).slots[id]? = some slot)
    (receiver : slot.receiver = .behaviour entity script (.hooked attach start update dispose))
    (fresh : slot.started = false) (stayed : ¬ Removed host id world.journal)
    (managing : update.hook.Managing name) {changed : Slot}
    (nested : Nested host ((world.putRegistry host ((world.registryOf host).setSlot id changed)).note
      (.called start.id start.label (.turn entity script signal))) middle)
    (same : changed.receiver = slot.receiver) (started : changed.started = true)
    (steady : Steady name host waiting (some id) middle) :
    (do
      let logic ← currentLogic host id (.hooked attach start update dispose)
      Run.isolate (Scheduler.update call host id entity script logic signal)).Ends
      (middle.note (.finished start.id (.turn entity script signal) .normal))
      (Returns (Turned name host waiting id slot signal world) (RecordedIn host)) := by
  have inside := (List.getElem?_eq_some_iff.mp held).1
  have stored : ((world.putRegistry host ((world.registryOf host).setSlot id changed)).registryOf
      host).slots[id]? = some changed := by
    rw [World.putRegistry_registryOf present]
    exact List.getElem?_set_self inside
  obtain ⟨later, found, since⟩ := nested.started id changed stored
  obtain ⟨entries, written, quiet⟩ := nested.since
  have owner : later.receiver = .behaviour entity script (.hooked attach start update dispose) :=
    ((written.receiver stored found).trans same).trans receiver
  have updates : part? later.receiver update.id = some .update :=
    part?_of_mem (steady.kept.distinct found) (by simp [owner, parts])
  rw [owner] at updates
  have resumed := steady.resume found owner (since.trans started) written.journal quiet stayed
  have belongs : Belongs host (middle.note (.finished start.id (.turn entity script signal) .normal))
      (.behaviour entity script (.hooked attach start update dispose)) := by
    rw [← owner]
    exact Or.inl (mem_accepted found)
  rw [Run.ends_bind, ends_currentLogic, Run.followed_ok, World.note_registryOf, found, Option.bind_some,
    owner]
  refine (hook_ends lawful managing belongs updates (by simp) resumed).relax ?_
  intro fault after holds
  obtain ⟨ending, last, outcome, rfl, settled, belongs, nested'⟩ := holds
  refine ⟨settled.finished belongs updates (.turn entity script signal) (by simp), ?_⟩
  refine ⟨_, _, (((((Opened.begin present held changed same (by simp)).later (nested.meanwhile id)).later
    (Meanwhile.note id middle (by simp) rfl)).later (Meanwhile.note id _ (by simp) rfl)).later
      (nested'.meanwhile id)).later (Meanwhile.note id last (by simp) rfl), rfl, ?_, ?_⟩
  · rw [receiver, fresh]
    exact .first entity script attach start update dispose ending
  · cases fault <;> simp_all [Entry.faulty]

/-- A behaviour that has not begun its updates is marked as active first, and goes on if its start hook returns. -/
theorem starting_turned (lawful : Lawful name host call)
    (steady : Steady name host waiting none world) {entity : Entity} {script : String}
    {attach start update dispose : Hooked} {phase : Schedule.Phase} {busy : Bool}
    (held : (world.registryOf host).slots[id]? =
      some ⟨.behaviour entity script (.hooked attach start update dispose), false, phase, busy⟩)
    (registered : id ∈ (world.registryOf host).registered) (signal : Tick.Signal) :
    (runReceiver call host id
      ⟨.behaviour entity script (.hooked attach start update dispose), false, phase, true⟩ signal).Ends
      (world.putRegistry host ((world.registryOf host).setSlot id
        ⟨.behaviour entity script (.hooked attach start update dispose), false, phase, true⟩))
      (Returns (Turned name host waiting id
        ⟨.behaviour entity script (.hooked attach start update dispose), false, phase, busy⟩ signal world)
        (RecordedIn host)) := by
  have present := steady.present
  have managed := steady.kept.managed _ (mem_accepted held)
  have distinct := steady.kept.distinct held
  have live := (steady.kept.stands id _ held).live (Or.inl registered)
  have alive : phase ≠ .gone := by simp [show phase = .live from live]
  have begins := part?_of_mem distinct (show (start.id, Part.start) ∈ _ by simp [parts])
  have same : calls _ world.journal = [.attach] := (steady.kept.lives id _ held).progress alive
  unfold runReceiver runBehaviour
  dsimp only
  rw [if_neg Bool.false_ne_true, Run.ends_bind, Run.ends_setSlot, Run.followed_ok,
    World.putRegistry_registryOf present, World.putRegistry_putRegistry present, Schedule.Registry.setSlot_setSlot]
  refine Run.Ends.returns (turn_hook lawful steady held registered managed.2.1 begins (by simp)
    ⟨.behaviour entity script (.hooked attach start update dispose), true, phase, true⟩ rfl rfl rfl
    ?_ (.turn entity script signal)) ?_
  · refine Progress.lives ⟨0, ?_⟩ alive
    rw [same]
    rfl
  · rintro (_ | fault) after ⟨ending, last, outcome, rfl, settled, belongs, nested⟩
    -- The receiver is still registered when its start hook is called, so no removal is behind it.
    · obtain rfl := outcome.mp rfl
      have stayed : ¬ Removed host id world.journal := fun removed =>
        (steady.kept.story.left id removed).1 registered
      have updates := managed.2.2.1
      exact resume_turned lawful present held rfl rfl stayed updates nested rfl rfl settled
    · have fails : ending ≠ .normal := fun normal => by cases outcome.mpr normal
      exact single_turn present held nested rfl rfl outcome settled belongs begins
        (fun _ => fails) (.failed entity script attach start update dispose ending fails)

/-- A receiver that is registered has its turn. -/
theorem runReceiver_turned (lawful : Lawful name host call)
    (steady : Steady name host waiting none world)
    (held : (world.registryOf host).slots[id]? = some slot)
    (registered : id ∈ (world.registryOf host).registered) (signal : Tick.Signal) :
    (runReceiver call host id { slot with busy := true } signal).Ends
      (world.putRegistry host ((world.registryOf host).setSlot id { slot with busy := true }))
      (Returns (Turned name host waiting id slot signal world) (RecordedIn host)) := by
  have present := steady.present
  have managed := steady.kept.managed _ (mem_accepted held)
  have distinct := steady.kept.distinct held
  have live := (steady.kept.stands id slot held).live (Or.inl registered)
  have alive : slot.phase ≠ .gone := by simp [live]
  have progress := (steady.kept.lives id slot held).progress alive
  -- What a receiver has heard so far says how far its life has come, and with that which hook is next.
  obtain ⟨receiver, started, phase, busy⟩ := slot
  rcases receiver with ⟨kind, logic⟩ | ⟨entity, script, ⟨attach, start, update, dispose⟩ | _⟩
  · have played := part?_of_mem distinct (show (logic.onTick.id, Part.tick) ∈ _ by simp [parts])
    obtain ⟨ticks, same⟩ := progress
    refine (turn_hook lawful steady held registered managed.1 played (by simp)
      ⟨.system kind logic, started, phase, true⟩ rfl rfl rfl ?_ (.signal signal)).relax ?_
    · refine Progress.lives ⟨ticks + 1, ?_⟩ alive
      rw [same, List.replicate_succ']
    · intro fault after holds
      obtain ⟨ending, last, outcome, rfl, settled, belongs, nested⟩ := holds
      exact single_turn present held nested rfl rfl outcome settled belongs played (by simp)
        (.system kind logic started ending)
  · cases started with
    | true =>
        have updates := part?_of_mem distinct (show (update.id, Part.update) ∈ _ by simp [parts])
        obtain ⟨count, same⟩ := progress
        refine (turn_hook lawful steady held registered managed.2.2.1 updates (by simp)
          ⟨.behaviour entity script (.hooked attach start update dispose), true, phase, true⟩ rfl rfl rfl
          ?_ (.turn entity script signal)).relax ?_
        · refine Progress.lives ⟨count + 1, ?_⟩ alive
          rw [same, List.replicate_succ', List.append_assoc]
        · intro fault after holds
          obtain ⟨ending, last, outcome, rfl, settled, belongs, nested⟩ := holds
          exact single_turn present held nested rfl rfl outcome settled belongs updates (by simp)
            (.update entity script attach start update dispose ending)
    | false => exact starting_turned lawful steady held registered signal
  · exact managed.elim

/-- A receiver that is registered has a whole turn, and then it is no longer busy. -/
theorem turn_turned (lawful : Lawful name host call)
    (steady : Steady name host waiting none world)
    (held : (world.registryOf host).slots[id]? = some slot)
    (registered : id ∈ (world.registryOf host).registered) (signal : Tick.Signal) :
    (turn call host id slot signal).Ends world (Returns (fun fault after =>
      Steady name host waiting none after ∧
        ∃ first ticks, Opened host id first ticks (world.note (.turnBegan host id)) after ∧
        first.ofTick = true ∧ Turn signal slot.receiver slot.started (first :: ticks) ∧
        fault.isSome = (first :: ticks).any Entry.faulty)
      (RecordedIn host)) := by
  have idle : slot.busy = false := Bool.eq_false_iff.mpr fun busy => by
    cases (steady.kept.stands id slot held).busy.mp busy
  have begun : Steady name host waiting none (world.note (.turnBegan host id)) := steady.note trivial rfl
  unfold turn
  rw [idle, if_neg Bool.false_ne_true, Run.ends_bind, Run.ends_note, Run.followed_ok, Run.ends_bind,
    Run.ends_setSlot, Run.followed_ok]
  refine (runReceiver_turned lawful begun held registered signal).returns ?_
  intro fault middle holds
  obtain ⟨settled, first, ticks, opened, begins, turned, faulty⟩ := holds
  rw [← bind_assoc]
  refine (end_keeps lawful settled).returns fun _ after ⟨rested, nested⟩ => ?_
  have whole := opened.later (nested.meanwhile id)
  rw [List.append_nil] at whole
  exact ⟨rested, first, ticks, whole, begins, turned, faulty⟩

end ScriptHost.Session.Scheduler
