/-
This file states what holds of a host over whole runs once it has begun to shut down.
-/
import ScriptHost.Proofs.Shutdown.Operations

namespace ScriptHost.Session.Shutdown

variable {host id depth : Nat} {tree : File.Tree} {draws : Script.Draws} {commands : List (Command Operation)}
  {calm : Prop} {origin world : World}

/-- The commands from outside are attempted one after the other, also after one that was left early. -/
def attempts (depth : Nat) : List (Command Operation) → World → List (Except Raised Answer) × World
  | [], world => ([], world)
  | command :: rest, world =>
      let (result, after) := (Perform.perform (caller depth) command).run.run world
      let (results, last) := attempts depth rest after
      (result :: results, last)

/-- Whatever host is asked for in a new world, it is like the core. -/
theorem create_hostOf (id : Nat) : (World.create tree draws).hostOf id = .core := by
  unfold World.hostOf World.create
  cases id <;> rfl

/-- Nobody has come to a new world. -/
theorem create_outline (host : Nat) :
    outlineOf (World.create tree draws) host = ⟨[], false, []⟩ := by
  have registry : (World.create tree draws).registryOf host = .empty :=
    congrArg Host.registry (create_hostOf host)
  rw [outlineOf, registry]
  rfl

/-- In an empty world everything is in order. -/
theorem sound_create (host : Nat) : Sound host (World.create tree draws) := by
  have silent : ∀ id, listeners (World.create tree draws) id = [] := by
    intro id
    rw [listeners, create_hostOf]
    rfl
  refine ⟨⟨?_, ?_, ?_⟩, ⟨?_, ?_, ?_, ?_⟩, ?_, ?_⟩
  · exact Nat.zero_lt_one
  · exact fun entry member => by cases member
  · exact fun id listening member => by rw [silent] at member; cases member
  · exact fun id _ listening member => by rw [silent] at member; cases member
  · rw [silent]
    exact Nat.zero_le 1
  · exact fun listening member => by rw [silent] at member; cases member
  · exact fun shut => by cases shut
  · rw [create_outline]
    refine ⟨by simp, by simp, fun id => ?_, fun id _ => rfl, fun _ id member => by cases member⟩
    simp [World.create]
  · exact fun later earlier id same => by cases later <;> cases same

/-- Attempts from outside pass, and are settled while none of them is broken off. -/
theorem attempts_passage (host depth : Nat) (commands : List (Command Operation)) {calm : Prop}
    (passage : Passage host [] calm origin world) :
    Passage host [] (calm ∧ ∀ result ∈ (attempts depth commands world).1, Calm result) origin
      (attempts depth commands world).2 := by
  induction commands generalizing world calm with
  | nil => exact passage.weaken And.left
  | cons command rest ih =>
      have performed : Passes host [] world world (Perform.perform (caller depth) command) :=
        perform_passes (caller_careful host depth) command (.refl passage.sound)
      have later := ih (passage.both performed)
      refine later.weaken fun holds => ⟨⟨holds.1, ?_⟩, ?_⟩
      · exact holds.2 _ (List.mem_cons_self)
      · exact fun result member => holds.2 result (List.mem_cons_of_mem _ member)

/-- The attempts from outside pass from the beginning of the world. -/
theorem history_passage (host depth : Nat) (commands : List (Command Operation)) (tree : File.Tree)
    (draws : Script.Draws) :
    Passage host [] (∀ result ∈ (attempts depth commands (World.create tree draws)).1, Calm result)
      (World.create tree draws) (attempts depth commands (World.create tree draws)).2 := by
  have empty : Passage host [] True (World.create tree draws) (World.create tree draws) :=
    .refl (sound_create host)
  exact (attempts_passage host depth commands empty).weaken fun calm => ⟨trivial, calm⟩

/-- Further commands are attempted in the world that the others left. -/
theorem attempts_append (depth : Nat) (commands further : List (Command Operation)) (world : World) :
    (attempts depth (commands ++ further) world).2 =
      (attempts depth further (attempts depth commands world).2).2 := by
  induction commands generalizing world with
  | nil => rfl
  | cons command rest ih => exact ih _

section Counting

variable {choose : Tick.Signal → Bool} {recent journal : List Entry}

/-- The ticks of two stretches add up. -/
theorem ticks_append :
    ticks host choose (recent ++ journal) = ticks host choose recent + ticks host choose journal :=
  List.countP_append

/-- The loose units of two stretches add up. -/
theorem units_append :
    units host choose (recent ++ journal) = units host choose recent + units host choose journal :=
  List.countP_append

/-- The commanded ticks of two stretches add up. -/
theorem commanded_append :
    commanded host choose (recent ++ journal) = commanded host choose recent + commanded host choose journal :=
  List.countP_append

/-- Never have the loose units begun more often than the host has ticked. -/
theorem units_le_ticks (passage : Passage host [] calm (World.create tree draws) world) (choose : Tick.Signal → Bool) :
    units host choose world.journal ≤ ticks host choose world.journal := by
  have spent := passage.onward.spent choose
  have start : spare host choose (World.create tree draws).journal = 0 := rfl
  rw [start] at spent
  unfold spare at spent
  omega

/-- All ticks are paid for. -/
theorem ticks_le_heeded (passage : Passage host [] calm (World.create tree draws) world)
    (choose : Tick.Signal → Bool) : ticks host choose world.journal ≤
      heeded host choose world.journal + commanded host choose world.journal := by
  have paid := passage.onward.paid choose
  have start : balance host choose (World.create tree draws).journal = 0 := rfl
  rw [start, List.countP_nil] at paid
  unfold balance at paid
  omega

/-- After a host has closed, only commands have it tick. -/
theorem recent_commanded (passage : Passage host [] calm origin world) (choose : Tick.Signal → Bool)
    (shut : closed host origin.journal = true) (grown : world.journal = recent ++ origin.journal) :
    units host choose recent ≤ ticks host choose recent ∧
      ticks host choose recent ≤ commanded host choose recent := by
  have spent := passage.onward.spent choose
  have paid := passage.onward.paid choose
  have heard : heeded host choose (recent ++ origin.journal) = heeded host choose origin.journal :=
    heeded_closed shut recent
  rw [grown] at spent paid
  unfold spare at spent
  unfold balance at paid
  rw [heard, ticks_append, commanded_append, List.countP_nil] at paid
  rw [ticks_append, units_append] at spent
  omega

end Counting

/-- Once a host has begun to shut down, no receiver that it had accepted has another turn. Until the command at hand
is done it ticks no more often than it was told to by broadcasts from before and by commands, and its loose units
begin no more often than it ticks. Further commands, whatever events they publish, have it tick no more often than
they command it. -/
theorem shutDown_silences {later earlier : List Entry}
    (cut : (attempts depth commands (World.create tree draws)).2.journal = later ++ .shutDownBegan host :: earlier) :
    (∀ id, Entry.accepted host id ∈ earlier → Entry.turnBegan host id ∉ later) ∧
      (∀ choose,
        units host choose (later ++ .shutDownBegan host :: earlier) ≤
          ticks host choose (later ++ .shutDownBegan host :: earlier) ∧
        ticks host choose (later ++ .shutDownBegan host :: earlier) ≤
          broadcasts host choose earlier + commanded host choose (later ++ .shutDownBegan host :: earlier)) ∧
      ∀ further, ∃ recent,
        (attempts depth (commands ++ further) (World.create tree draws)).2.journal =
          recent ++ (later ++ .shutDownBegan host :: earlier) ∧
        (∀ id, Entry.accepted host id ∈ earlier → Entry.turnBegan host id ∉ recent) ∧
        ∀ choose, units host choose recent ≤ ticks host choose recent ∧
          ticks host choose recent ≤ commanded host choose recent := by
  have passage := history_passage host depth commands tree draws
  have shut : closed host (.shutDownBegan host :: earlier) = true := closed_iff.mpr List.mem_cons_self
  refine ⟨fun id entered => passage.sound.hushed.later cut entered, fun choose => ⟨?_, ?_⟩, fun further => ?_⟩
  · rw [← cut]
    exact units_le_ticks passage choose
  · have heard : heeded host choose (later ++ .shutDownBegan host :: earlier) ≤
        broadcasts host choose earlier := by
      rw [heeded_closed shut]
      exact heeded_le
    have paid := ticks_le_heeded passage choose
    rw [cut] at paid
    omega
  · have whole := history_passage host depth (commands ++ further) tree draws
    -- The further commands are a stretch of the whole run, in which the receiver is shut out from the start.
    have begun : Passage host [] True (attempts depth commands (World.create tree draws)).2
        (attempts depth commands (World.create tree draws)).2 := .refl passage.sound
    have onward := attempts_passage host depth further begun
    rw [← attempts_append] at onward
    obtain ⟨recent, grown⟩ := onward.onward.since
    rw [cut] at grown
    refine ⟨recent, grown.symm, fun id entered member => ?_, fun choose => ?_⟩
    · have same : (attempts depth (commands ++ further) (World.create tree draws)).2.journal =
          (recent ++ later) ++ .shutDownBegan host :: earlier := by
        rw [← grown, List.append_assoc]
      exact whole.sound.hushed.later same entered (List.mem_append_left later member)
    · apply recent_commanded onward choose
      · rw [cut, closed_iff]
        exact List.mem_append_right later (closed_iff.mp shut)
      · rw [cut]
        exact grown.symm

/-- The receiver has been accepted. -/
def arrived (host id : Nat) (journal : List Entry) : Bool :=
  journal.any fun
    | .accepted place receiver => place == host && receiver == id
    | _ => false

/-- A receiver has arrived once the journal has it accepted. -/
theorem arrived_iff {journal : List Entry} :
    arrived host id journal = true ↔ Entry.accepted host id ∈ journal := by
  constructor
  · intro holds
    obtain ⟨entry, member, tells⟩ := List.any_eq_true.mp holds
    cases entry <;> try cases tells
    next place receiver =>
      simp only [Bool.and_eq_true, beq_iff_eq] at tells
      rwa [← tells.1, ← tells.2]
  · intro member
    exact List.any_eq_true.mpr ⟨_, member, by simp⟩

/-- The journal is cut where the host began to shut down. -/
theorem cut_at {journal : List Entry} (index : Nat)
    (here : closed host ((journal.drop index).take 1) = true) :
    journal = journal.take index ++ .shutDownBegan host :: journal.drop (index + 1) := by
  have split := List.take_append_drop index journal
  have rest : (journal.drop index).tail = journal.drop (index + 1) := List.tail_drop
  revert here split rest
  cases journal.drop index with
  | nil => exact fun here => by cases here
  | cons first later =>
      intro here split rest
      have same : first = .shutDownBegan host := by
        have member := closed_iff.mp here
        exact (List.mem_singleton.mp member).symm
      rw [← rest, ← same]
      exact split.symm

def still : Hook Operation := ⟨fun _ => ⟨[], .normal⟩⟩

/-- The tick of this system shuts the runtime down. -/
def guardRun : List (Command Operation) :=
  [⟨"", "main", .newRuntime none ⟨""⟩ []⟩, ⟨"", "main", .startRuntime⟩,
    ⟨"", "main", .registerSystem 0 "guard" ⟨⟨fun _ => ⟨[⟨"", "main", .shutDownRuntime⟩], .normal⟩⟩, still⟩⟩,
    ⟨"", "main", .publish (.logicTick 1)⟩]

/-- A unit stands among the scripts, and it is empty. -/
def clockTree : File.Tree :=
  (File.Tree.mk [] []).writeFile ["scripts", "clock.rhai"] []

def guardJournal : List Entry :=
  (attempts 3 guardRun (World.create clockTree .lowest)).2.journal

/-- The host of the guard begins to shut down in the ninth of its entries, latest first. -/
theorem guardJournal_cut :
    guardJournal = guardJournal.take 8 ++ .shutDownBegan 1 :: guardJournal.drop 9 :=
  cut_at 8 (by decide +kernel)

/-- The system had been accepted and has no other turn, and the one broadcast pays for the one tick. -/
theorem shutDown_silences_guard :
    ∃ later earlier, (attempts 3 guardRun (World.create clockTree .lowest)).2.journal =
        later ++ .shutDownBegan 1 :: earlier ∧ Entry.accepted 1 0 ∈ earlier ∧ Entry.turnBegan 1 0 ∉ later ∧
        broadcasts 1 (fun _ => true) earlier = 1 ∧
        ticks 1 (fun _ => true) (later ++ .shutDownBegan 1 :: earlier) ≤
          1 + commanded 1 (fun _ => true) (later ++ .shutDownBegan 1 :: earlier) := by
  have entered : Entry.accepted 1 0 ∈ guardJournal.drop 9 := arrived_iff.mp (by decide +kernel)
  have heard : broadcasts 1 (fun _ => true) (guardJournal.drop 9) = 1 := by decide +kernel
  obtain ⟨silent, paid, -⟩ := shutDown_silences guardJournal_cut
  refine ⟨_, _, guardJournal_cut, entered, silent 0 entered, heard, ?_⟩
  have enough := (paid fun _ => true).2
  rwa [heard] at enough

/-- The units of these names begin. -/
def looses (host : Nat) (names : List String) : Entry → Bool
  | .unitsBegan place listed _ => place == host && listed == names
  | _ => false

/-- The loose unit begins although the runtime has been shut down in the same tick. -/
theorem units_outlast_shutDown :
    ∃ later earlier signal, (attempts 3 guardRun (World.create clockTree .lowest)).2.journal =
      later ++ .shutDownBegan 1 :: earlier ∧ Entry.unitsBegan 1 ["clock"] signal ∈ later := by
  have found : (guardJournal.take 8).any (looses 1 ["clock"]) = true := by decide +kernel
  obtain ⟨entry, member, tells⟩ := List.any_eq_true.mp found
  cases entry <;> try cases tells
  next place names signal =>
    simp only [looses, Bool.and_eq_true, beq_iff_eq] at tells
    obtain ⟨rfl, rfl⟩ := tells
    exact ⟨_, _, signal, guardJournal_cut, member⟩

/-- When nothing hangs, every receiver that was accepted is registered and has not been finalized, or it has left
and has been finalized once. Whoever was accepted before the host began to shut down has left. -/
theorem shutDown_settles
    (calm : ∀ result ∈ (attempts depth commands (World.create tree draws)).1, Calm result)
    (entered : Entry.accepted host id ∈ (attempts depth commands (World.create tree draws)).2.journal) :
    (id ∈ ((attempts depth commands (World.create tree draws)).2.registryOf host).registered ∧
        finals host (attempts depth commands (World.create tree draws)).2.journal id = 0 ∧
        ¬ ShutOut host (attempts depth commands (World.create tree draws)).2.journal id) ∨
      (id ∉ ((attempts depth commands (World.create tree draws)).2.registryOf host).registered ∧
        finals host (attempts depth commands (World.create tree draws)).2.journal id = 1) := by
  have passage := history_passage host depth commands tree draws
  have settled := passage.settled calm
  have tidy := passage.sound.tidy
  generalize (attempts depth commands (World.create tree draws)).2 = last at *
  have inside := (tidy.entered id).mp entered
  obtain ⟨⟨phase, busy⟩, held⟩ : ∃ state, (outlineOf last host).slots[id]? = some state :=
    ⟨_, List.getElem?_eq_getElem inside⟩
  have stands := tidy.stands id _ held
  -- Nobody is busy in a new world, and what is settled leaves nobody busy either.
  have resting : busy = false := by
    have same := settled.busy id
    rw [create_outline, busy_held held] at same
    exact same
  cases phase with
  | live =>
      left
      have registered : id ∈ (outlineOf last host).registered := by
        by_contra out
        have loose := settled.loose id ⟨out, by rw [held]; rfl⟩
        rw [create_outline] at loose
        cases loose.2
      have unlocked : (outlineOf last host).locked = false := by
        rw [settled.locked, create_outline]
      exact ⟨registered, stands, tidy.strict unlocked id registered⟩
  | leaving =>
      rw [resting] at stands
      cases stands.2.1
  | gone => exact Or.inr stands

/-- Whoever asks this factory for the door shuts the runtime down. -/
def doorFactory : Factory Operation where
  ask script :=
    if script = "door" then ⟨[⟨"", "main", .shutDownRuntime⟩], .made ⟨still, still, still, still⟩⟩
    else ⟨[], .declined⟩

def doorRun : List (Command Operation) :=
  [⟨"", "", .spawn none [("scripts", "[\"door\"]")]⟩, ⟨"", "main", .newRuntime none ⟨""⟩ [doorFactory]⟩,
    ⟨"", "main", .registerSystem 0 "guard" ⟨still, still⟩⟩, ⟨"", "main", .startRuntime⟩,
    ⟨"", "main", .dropRuntime⟩]

/-- The system has left and was finalized once. -/
theorem shutDown_settles_door :
    (∀ result ∈ (attempts 3 doorRun (World.create ⟨[], []⟩ .lowest)).1, Calm result) ∧
      Entry.accepted 1 0 ∈ (attempts 3 doorRun (World.create ⟨[], []⟩ .lowest)).2.journal ∧
      0 ∉ ((attempts 3 doorRun (World.create ⟨[], []⟩ .lowest)).2.registryOf 1).registered ∧
      finals 1 (attempts 3 doorRun (World.create ⟨[], []⟩ .lowest)).2.journal 0 = 1 := by
  have calm : ∀ result ∈ (attempts 3 doorRun (World.create ⟨[], []⟩ .lowest)).1, Calm result := by decide +kernel
  have entered : Entry.accepted 1 0 ∈ (attempts 3 doorRun (World.create ⟨[], []⟩ .lowest)).2.journal :=
    arrived_iff.mp (by decide +kernel)
  have left : 0 ∉ ((attempts 3 doorRun (World.create ⟨[], []⟩ .lowest)).2.registryOf 1).registered := by
    decide +kernel
  rcases shutDown_settles calm entered with stays | gone
  · exact absurd stays.1 left
  · exact ⟨calm, entered, gone⟩

/-- The behaviour was accepted after the shutdown had begun, and it is neither removed nor finalized when the
runtime is dropped. -/
theorem behaviour_outlasts_shutDown :
    (∀ result ∈ (attempts 3 doorRun (World.create ⟨[], []⟩ .lowest)).1, Calm result) ∧
      closed 1 (attempts 3 doorRun (World.create ⟨[], []⟩ .lowest)).2.journal = true ∧
      Entry.accepted 1 1 ∈ (attempts 3 doorRun (World.create ⟨[], []⟩ .lowest)).2.journal ∧
      1 ∈ ((attempts 3 doorRun (World.create ⟨[], []⟩ .lowest)).2.registryOf 1).registered ∧
      finals 1 (attempts 3 doorRun (World.create ⟨[], []⟩ .lowest)).2.journal 1 = 0 := by
  have entered : Entry.accepted 1 1 ∈ (attempts 3 doorRun (World.create ⟨[], []⟩ .lowest)).2.journal :=
    arrived_iff.mp (by decide +kernel)
  refine ⟨?_, ?_, entered, ?_, ?_⟩ <;> decide +kernel

end ScriptHost.Session.Shutdown
