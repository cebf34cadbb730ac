/-
This file states what holds of a registry over whole runs, from the time when nothing has been registered.
-/
import ScriptHost.Proofs.Schedule.Management
import ScriptHost.Proofs.Schedule.Ticking

namespace ScriptHost.Session.Scheduler

open World (registryOf)
open Run (Returns)

/-- Commands from outside let receivers come and go, and they tick. -/
inductive Drives (name : String) : Command Operation → Prop
  | manages {command : Command Operation} (manages : Manages name command) : Drives name command
  | tick (title : String) (signal : Tick.Signal) : Drives name ⟨title, name, .tick signal⟩

/-- The commands are carried out one after the other, and hooks nest at most so deep. -/
def play (depth : Nat) (commands : List (Command Operation)) (world : World) :
    Except Raised Unit × World :=
  (Perform.performAll (caller depth) commands).run.run world

/-- Nothing has been registered with the host yet. -/
structure Fresh (name : String) (host : Nat) (world : World) : Prop where
  named : (world.names.hosts.lookup name).getD 0 = host
  present : host < world.hosts.length
  registry : world.registryOf host = .empty
  plain : ∀ entry ∈ world.journal, Plain host entry
  mentioned : ∀ entry ∈ world.journal, ∀ hook, entry.hook? = some hook → hook < world.uses.length

variable {name : String} {host : Nat} {world : World} {commands : List (Command Operation)}

/-- In a new world nobody has been registered under the name. -/
theorem fresh_create (name : String) (tree : File.Tree) (draws : Script.Draws) :
    Fresh name 0 (World.create tree draws) :=
  ⟨rfl, by simp [World.create], rfl, by simp [World.create], by simp [World.create]⟩

/-- The start of this behaviour takes it out of the registry again. -/
def leavingHooks : BehaviourHooks Operation where
  attach := ⟨fun _ => ⟨[], .normal⟩⟩
  start := ⟨fun _ => ⟨[⟨"", "", .unregister "leaving"⟩], .normal⟩⟩
  update := ⟨fun _ => ⟨[], .normal⟩⟩
  dispose := ⟨fun _ => ⟨[], .normal⟩⟩

def leavingRun : List (Command Operation) :=
  [⟨"", "", .registerBehaviour (.number ⟨0⟩) "script" "leaving" leavingHooks⟩, ⟨"", "", .tick ⟨0, 0⟩⟩]

/-- The commands of the example drive one scheduler. -/
theorem leaving_drives : ∀ command ∈ leavingRun, Drives "" command := by
  have idle : ∀ count : Nat, ∀ command ∈ ([] : List (Command Operation)), Manages "" command := by simp
  intro command member
  simp only [leavingRun, List.mem_cons, List.not_mem_nil, or_false] at member
  rcases member with rfl | rfl
  · refine .manages (.registerBehaviour _ _ _ _ _ (fun _ => rfl) (fun count command member => ?_) idle idle)
    rw [List.mem_singleton.mp member]
    exact .unregister _ _
  · exact .tick _ _

/-- The example runs to its end. -/
theorem leaving_finished : (play 3 leavingRun (World.create ⟨[], []⟩ .lowest)).1 = .ok () := by
  decide +kernel

/-- The invariant holds of an empty registry. -/
theorem kept_empty {journal : List Entry} {hookCount : Nat} (plain : ∀ entry ∈ journal, Plain host entry)
    (mentioned : ∀ entry ∈ journal, ∀ hook, entry.hook? = some hook → hook < hookCount) :
    Kept name host [] none .empty hookCount journal := by
  have nobody : rejected host journal = [] := by
    apply List.eq_nil_iff_forall_not_mem.mpr
    intro receiver member
    exact plain _ (mem_rejected.mp member) rfl
  have unlisted : ∀ entry ∈ journal.reverse, ∀ ids, entry ≠ .listed host ids := by
    rintro entry member ids rfl
    exact plain _ (List.mem_reverse.mp member) rfl
  have unowned : owned host (.empty : Registry) journal = [] := by
    rw [owned, nobody]
    rfl
  exact
    { unlocked := rfl
      orderly := ⟨List.Pairwise.nil, List.nodup_nil, List.nodup_nil⟩
      within := by simp [Schedule.Registry.empty]
      apart := by simp
      once := List.nodup_nil
      inside := by simp
      managed := by simp [accepted, Schedule.Registry.empty]
      single := by rw [unowned]; exact List.nodup_nil
      known := by simp [unowned]
      mentioned := mentioned
      dismissed := fun receiver member => absurd rfl (plain _ member)
      stands := by simp [Schedule.Registry.empty]
      lives := by simp [Schedule.Registry.empty]
      story :=
        { listings := fun ids member => absurd rfl (plain _ member)
          current := listedAfter_unlisted unlisted []
          entered := fun id => iff_of_false (fun member => plain _ member rfl) (Nat.not_lt_zero id)
          left := fun id removed => by
            obtain ⟨ids, member, -⟩ := removed
            exact absurd rfl (plain _ member)
          quiet := by simp [accepted, Schedule.Registry.empty]
          resumed := by simp [accepted, Schedule.Registry.empty] } }

/-- A fresh world is steady. -/
theorem Fresh.steady (fresh : Fresh name host world) : Steady name host [] none world where
  named := fresh.named
  present := fresh.present
  closed := by
    rw [fresh.registry]
    intro hook arguments rest receiver same member
    cases member
  kept := by
    rw [fresh.registry]
    exact kept_empty fresh.plain fresh.mentioned

/-- Commands from outside find the registry at rest and leave it at rest. -/
theorem play_steady (drives : ∀ command ∈ commands, Drives name command) (depth : Nat)
    (steady : Steady name host [] none world) :
    (Perform.performAll (caller depth) commands).Ends world
      (Returns (fun _ => Steady name host [] none) (RecordedIn host)) := by
  have lawful := caller_lawful name host depth
  induction commands generalizing world with
  | nil => exact steady
  | cons command commands ih =>
      have performed : (Perform.perform (caller depth) command).Ends world
          (Returns (fun _ => Steady name host [] none) (RecordedIn host)) := by
        cases drives command List.mem_cons_self with
        | manages manages =>
            exact (perform_keeps lawful steady manages).relax fun _ _ kept => kept.1
        | tick title signal =>
            unfold Perform.perform
            rw [Run.ends_bind, Run.ends_hostNamed, Run.followed_ok, steady.named]
            change (do
              Run.note (.tickCommanded host signal)
              return .ticked (← tick (caller depth) host signal) : Run Answer).Ends world _
            rw [Run.ends_bind, Run.ends_note, Run.followed_ok]
            have noted : Steady name host [] none (world.note (.tickCommanded host signal)) :=
              steady.note trivial rfl
            exact (tick_reported lawful noted signal).returns fun _ _ kept => kept.1
      refine performed.returns fun answer after settled => ?_
      have noted : Steady name host [] none (after.note (.answered command.title answer)) :=
        settled.note trivial rfl
      rw [Run.ends_bind, Run.ends_note, Run.followed_ok]
      exact ih (fun command member => drives command (List.mem_cons_of_mem _ member)) noted

/-- A run comes to its end, or its hooks nest too deep. -/
theorem play_outcome (fresh : Fresh name host world)
    (drives : ∀ command ∈ commands, Drives name command) (depth : Nat) :
    (play depth commands world).1 = .ok () ∧ Steady name host [] none (play depth commands world).2 ∨
      (play depth commands world).1 = .error .exhausted ∧ RecordedIn host (play depth commands world).2 := by
  have ends := play_steady drives depth fresh.steady
  change Returns (fun _ => Steady name host [] none) (RecordedIn host) (play depth commands world).1
    (play depth commands world).2 at ends
  revert ends
  generalize (play depth commands world).1 = result
  intro ends
  cases result with
  | ok value => exact Or.inl ⟨rfl, ends⟩
  | error raised =>
      cases raised
      case exhausted => exact Or.inr ⟨rfl, ends⟩
      all_goals exact ends.elim

/-- What the journal tells of receivers, wherever the run was broken off: those that were accepted lived in
the order of their hooks, and those that were rejected have been dismissed at most. -/
structure Lifelong (host : Nat) (world : World) : Prop where
  accepted : ∀ id, Entry.accepted host id ∈ world.journal → ∃ receiver,
    (accepted (world.registryOf host))[id]? = some receiver ∧
      Lived receiver (calls receiver world.journal)
  rejected : ∀ receiver, Entry.rejected host receiver ∈ world.journal →
    calls receiver world.journal <+: dismissal receiver

/-- What the journal tells of receivers when no operation is under way: one that is not registered any more
has been finalized once, and one that is registered has not been finalized. -/
structure Finalized (host : Nat) (world : World) : Prop where
  accepted : ∀ id, Entry.accepted host id ∈ world.journal → ∃ receiver,
    (accepted (world.registryOf host))[id]? = some receiver ∧
      (calls receiver world.journal).count .finalize =
        if id ∈ (world.registryOf host).registered then 0 else 1
  rejected : ∀ receiver, Entry.rejected host receiver ∈ world.journal →
    calls receiver world.journal = dismissal receiver
  removed : ∀ id, Removed host id world.journal → id ∉ (world.registryOf host).registered

/-- In a recorded world all lives have the right shape. -/
theorem RecordedIn.lifelong (recorded : RecordedIn host world) : Lifelong host world where
  accepted id member := by
    have inside := (recorded.story.entered id).mp member
    rw [← accepted_length] at inside
    exact ⟨_, List.getElem?_eq_getElem inside,
      recorded.lives id _ (List.getElem?_eq_getElem inside)⟩
  rejected receiver member := by
    rcases recorded.dismissed receiver member with nothing | whole
    · rw [nothing]
      exact List.nil_prefix
    · exact ⟨[], by rw [whole, List.append_nil]⟩

/-- A receiver that is active has not been finalized. -/
theorem Active.unfinalized {receiver : Receiver} {heard : List Part} (active : Active receiver heard) :
    heard.count .finalize = 0 := by
  cases receiver with
  | system kind logic =>
      obtain ⟨ticks, rfl⟩ := active
      simp [List.count_replicate]
  | behaviour entity script logic =>
      rcases active with rfl | ⟨updates, rfl⟩
      · rfl
      · simp [List.count_replicate]

/-- At rest, a slot is gone unless its receiver is registered. -/
theorem Steady.finalized (steady : Steady name host [] none world) : Finalized host world where
  accepted id member := by
    have inside := (steady.kept.story.entered id).mp member
    have held := List.getElem?_eq_getElem inside
    generalize (world.registryOf host).slots[id] = slot at held
    have stands := steady.kept.stands id slot held
    obtain ⟨active, progress, heard⟩ := steady.kept.lives id slot held
    refine ⟨slot.receiver, by rw [accepted_getElem?, held, Option.map_some], ?_⟩
    rw [heard, List.count_append, progress.active.unfinalized]
    by_cases registered : id ∈ (world.registryOf host).registered
    · have live := stands.live (Or.inl registered)
      simp [registered, live]
    · have gone : slot.phase = .gone := by
        rcases stands.ended (by simp [registered]) with gone | ⟨-, runs⟩
        · exact gone
        · cases runs
      simp [registered, gone]
  rejected := steady.kept.dismissed
  removed id removed := (steady.kept.story.left id removed).1

/-- Receivers are called in the order of their lives over every run, and they are finalized once they are
removed. -/
theorem receivers_live (fresh : Fresh name host world)
    (drives : ∀ command ∈ commands, Drives name command) (depth : Nat) :
    Lifelong host (play depth commands world).2 ∧
      ((play depth commands world).1 = .ok () ∧ Finalized host (play depth commands world).2 ∨
        (play depth commands world).1 = .error .exhausted) := by
  rcases play_outcome fresh drives depth with ⟨ends, steady⟩ | ⟨ends, recorded⟩
  · exact ⟨RecordedIn.lifelong steady.recorded, Or.inl ⟨ends, steady.finalized⟩⟩
  · exact ⟨recorded.lifelong, Or.inr ends⟩

/-- The receiver that removes itself is finalized once. -/
theorem receivers_live_leaving : Lifelong 0 (play 3 leavingRun (World.create ⟨[], []⟩ .lowest)).2 ∧
    Finalized 0 (play 3 leavingRun (World.create ⟨[], []⟩ .lowest)).2 := by
  obtain ⟨lives, ends⟩ := receivers_live (fresh_create "" ⟨[], []⟩ .lowest) leaving_drives 3
  rcases ends with ⟨-, finalized⟩ | exhausted
  · exact ⟨lives, finalized⟩
  · rw [leaving_finished] at exhausted
    cases exhausted

/-- Whenever the registry has changed, its receivers stood in order and did not collide. -/
structure Listed (host : Nat) (world : World) : Prop where
  orderly : ∀ ids, Entry.listed host ids ∈ world.journal →
    Orderly (accepted (world.registryOf host)) ids
  current : (world.registryOf host).registered = listedAfter host [] world.journal.reverse

/-- In a recorded world the lists tell who came and left. -/
theorem RecordedIn.listed (recorded : RecordedIn host world) : Listed host world where
  orderly ids member := (recorded.story.listings ids member).1
  current := recorded.story.current.symm

/-- Whichever tick comes next is a round over the receivers that are registered now, and the registry is in
order even if the tick is broken off. -/
structure Punctual (host depth : Nat) (world : World) : Prop where
  ticks : ∀ signal, (tick (caller depth) host signal).Ends world
    (Returns (Reported host signal world) (Listed host))

/-- From a steady world on every tick is a round. -/
theorem Steady.punctual (steady : Steady name host [] none world) (depth : Nat) :
    Punctual host depth world where
  ticks signal := by
    refine Run.Ends.excuse ?_ fun _ recorded => RecordedIn.listed recorded
    exact (tick_reported (caller_lawful name host depth) steady signal).relax fun _ _ told => told.2

/-- The registry is in order throughout every run, and every tick after it visits the receivers that were
registered when it began and have not been removed before their turn. -/
theorem ticks_visit_registered (fresh : Fresh name host world)
    (drives : ∀ command ∈ commands, Drives name command) (depth : Nat) :
    Listed host (play depth commands world).2 ∧
      ((play depth commands world).1 = .ok () ∧ Punctual host depth (play depth commands world).2 ∨
        (play depth commands world).1 = .error .exhausted) := by
  rcases play_outcome fresh drives depth with ⟨ends, steady⟩ | ⟨ends, recorded⟩
  · exact ⟨RecordedIn.listed steady.recorded, Or.inl ⟨ends, steady.punctual depth⟩⟩
  · exact ⟨recorded.listed, Or.inr ends⟩

/-- The tick that removes a receiver is a round as well. -/
theorem ticks_visit_registered_leaving : Listed 0 (play 3 leavingRun (World.create ⟨[], []⟩ .lowest)).2 ∧
    Punctual 0 3 (play 3 leavingRun (World.create ⟨[], []⟩ .lowest)).2 := by
  obtain ⟨listed, ends⟩ := ticks_visit_registered (fresh_create "" ⟨[], []⟩ .lowest) leaving_drives 3
  rcases ends with ⟨-, punctual⟩ | exhausted
  · exact ⟨listed, punctual⟩
  · rw [leaving_finished] at exhausted
    cases exhausted

/-- The next entry is the call of a hook that plays this part for the receiver. -/
def Next (receiver : Receiver) (part : Part) (later : List Entry) : Prop :=
  ∃ rest hook label arguments, later = rest ++ [.called hook label arguments] ∧
    part? receiver hook = some part

/-- A part comes next if the entry that follows at once is heard as its call. -/
theorem next_iff {receiver : Receiver} {part : Part} {later : List Entry} :
    Next receiver part later ↔ later.getLast?.bind (heard? receiver) = some part := by
  rw [Option.bind_eq_some_iff]
  constructor
  · intro holds
    obtain ⟨rest, hook, label, arguments, rfl, played⟩ := holds
    exact ⟨_, List.getLast?_concat, played⟩
  · intro holds
    obtain ⟨entry, last, heard⟩ := holds
    obtain ⟨rest, rfl⟩ := List.getLast?_eq_some_iff.mp last
    cases entry <;> try cases heard
    next hook label arguments => exact ⟨rest, hook, label, arguments, rfl, heard⟩

instance (receiver : Receiver) (part : Part) (later : List Entry) :
    Decidable (Next receiver part later) :=
  decidable_of_iff _ next_iff.symm

/-- No tick calls a receiver after its removal, except that an update follows a start that ended well
although the receiver was removed while the start ran. -/
def Spared (host : Nat) (world : World) : Prop :=
  ∀ later earlier id receiver part, world.journal = later ++ earlier →
    (accepted (world.registryOf host))[id]? = some receiver → Removed host id earlier →
    part.ofTick = true →
    (Next receiver part later ↔ later ≠ [] ∧ part = .update ∧ Overtaken host id receiver earlier)

/-- In a recorded world nobody is called after being removed, but for an update behind its start. -/
theorem RecordedIn.spared (recorded : RecordedIn host world) : Spared host world := by
  intro later earlier id receiver part split held removed ofTick
  constructor
  · intro holds
    obtain ⟨rest, hook, label, arguments, rfl, played⟩ := holds
    have quiet := recorded.story.quiet rest hook label arguments earlier id receiver part
      (by rw [split, List.append_assoc, List.singleton_append]) held played ofTick removed
    exact ⟨by simp, quiet⟩
  · intro holds
    obtain ⟨more, rfl, start, label, arguments, during, before, played, ended, -, -⟩ := holds
    have resumed := recorded.story.resumed later start arguments
      (during ++ .called start label arguments :: before) receiver (by rw [split, ended])
      (List.mem_of_getElem? held) played
    rcases resumed with nothing | ⟨rest, update, label, given, updates, same⟩
    · exact absurd nothing more
    · exact ⟨rest, update, label, given, same, updates⟩

/-- After a removal has returned, the receiver is called by no tick of the run, apart from one update. -/
theorem removed_spared (fresh : Fresh name host world)
    (drives : ∀ command ∈ commands, Drives name command) (depth : Nat) :
    Spared host (play depth commands world).2 := by
  rcases play_outcome fresh drives depth with ⟨-, steady⟩ | ⟨-, recorded⟩
  · exact RecordedIn.spared steady.recorded
  · exact recorded.spared

/-- The receiver that removes itself is not called again. -/
theorem removed_spared_leaving : Spared 0 (play 3 leavingRun (World.create ⟨[], []⟩ .lowest)).2 :=
  removed_spared (fresh_create "" ⟨[], []⟩ .lowest) leaving_drives 3

/-- The behaviour has left the registry while its start ran, and yet it is updated. -/
theorem removed_updated_leaving : ¬ ∀ later earlier receiver part,
    (play 3 leavingRun (World.create ⟨[], []⟩ .lowest)).2.journal = later ++ earlier →
    (accepted ((play 3 leavingRun (World.create ⟨[], []⟩ .lowest)).2.registryOf 0))[0]? = some receiver →
    Removed 0 0 earlier → part.ofTick = true → ¬ Next receiver part later := by
  intro spared
  have updated : ((accepted ((play 3 leavingRun (World.create ⟨[], []⟩ .lowest)).2.registryOf 0))[0]?.any
      fun receiver => Next receiver .update
        ((play 3 leavingRun (World.create ⟨[], []⟩ .lowest)).2.journal.take 6)) = true := by
    decide +kernel
  obtain ⟨receiver, held, next⟩ := (Option.any_eq_true _ _).mp updated
  refine spared _ _ receiver .update (List.take_append_drop 6 _).symm held ?_ rfl (of_decide_eq_true next)
  decide +kernel

end ScriptHost.Session.Scheduler
