/-
This file reads from a journal how often a host was to tick and did tick, which receivers had their turn,
and which were finalized.
-/
import ScriptHost.Proofs.Session.Registries

namespace ScriptHost.Session

/-- Such an entry does not count for the host. -/
def Entry.idle (host : Nat) : Entry → Bool
  | .accepted place _ | .broadcast place _ | .tickCommanded place _ | .tickBegan place _
  | .turnBegan place _ | .unitsBegan place _ _ | .finalized place _ | .shutDownBegan place => place != host
  | _ => true

/-- Such an entry tells who has come to the host, who has been finalized, or that the host closes. -/
def Entry.telling (host : Nat) : Entry → Bool
  | .accepted place _ | .finalized place _ | .shutDownBegan place => place == host
  | _ => false

/-- Such an entry counts broadcasts and ticks. -/
def Entry.timing : Entry → Bool
  | .broadcast .. | .tickCommanded .. | .tickBegan .. | .unitsBegan .. => true
  | _ => false

/-- Such an entry is neither about ticks nor about the end of a host. -/
def Entry.timeless : Entry → Bool
  | .broadcast .. | .tickCommanded .. | .tickBegan .. | .unitsBegan .. | .shutDownBegan .. => false
  | _ => true

namespace Shutdown

variable (host : Nat) (choose : Tick.Signal → Bool) (journal : List Entry)

/-- The host has begun to shut down. -/
def closed : Bool :=
  journal.any fun
    | .shutDownBegan place => place == host
    | _ => false

def broadcasts : Nat :=
  journal.countP fun
    | .broadcast place signal => place == host && choose signal
    | _ => false

def commanded : Nat :=
  journal.countP fun
    | .tickCommanded place signal => place == host && choose signal
    | _ => false

def ticks : Nat :=
  journal.countP fun
    | .tickBegan place signal => place == host && choose signal
    | _ => false

def units : Nat :=
  journal.countP fun
    | .unitsBegan place _ signal => place == host && choose signal
    | _ => false

/-- These broadcasts began before the host began to shut down. -/
def heeded : List Entry → Nat
  | [] => 0
  | .broadcast place signal :: journal =>
      heeded journal + if place = host ∧ choose signal ∧ ¬ closed host journal then 1 else 0
  | _ :: journal => heeded journal

def finals (id : Nat) : Nat :=
  journal.countP fun
    | .finalized place receiver => place == host && receiver == id
    | _ => false

/-- The host has accepted the receiver and has begun to shut down since. -/
def ShutOut (id : Nat) : Prop :=
  ∃ later earlier, journal = later ++ .shutDownBegan host :: earlier ∧ Entry.accepted host id ∈ earlier

/-- No receiver had its turn when it was shut out. -/
def Hushed : Prop :=
  ∀ later earlier id, journal = later ++ .turnBegan host id :: earlier → ¬ ShutOut host earlier id

/-- This many ticks are still to come, for broadcasts that were heeded and for commands. -/
def balance : Int :=
  heeded host choose journal + commanded host choose journal - ticks host choose journal

/-- In this many ticks the loose units are still to run. -/
def spare : Int :=
  ticks host choose journal - units host choose journal

variable {host choose journal} {entry : Entry} {entries : List Entry} {id : Nat} {signal : Tick.Signal}

/-- What no entry of a kind changes, all of them together leave alone. -/
theorem unmoved {α : Type} {value : List Entry → α} {kind : Entry → Bool}
    (one : ∀ entry journal, kind entry = true → value (entry :: journal) = value journal)
    (all : ∀ entry ∈ entries, kind entry = true) (journal : List Entry) :
    value (entries ++ journal) = value journal := by
  induction entries with
  | nil => rfl
  | cons entry entries ih =>
      obtain ⟨first, rest⟩ := List.forall_mem_cons.mp all
      rw [List.cons_append, one entry _ first, ih rest]

/-- A host is closed once its journal has it begin to shut down. -/
theorem closed_iff : closed host journal = true ↔ Entry.shutDownBegan host ∈ journal := by
  constructor
  · intro holds
    obtain ⟨entry, member, tells⟩ := List.any_eq_true.mp holds
    cases entry <;> try cases tells
    next place =>
      rw [beq_iff_eq] at tells
      rwa [← tells]
  · intro member
    exact List.any_eq_true.mpr ⟨_, member, beq_self_eq_true host⟩

/-- What is written later is not heeded any more. -/
theorem heeded_closed (shut : closed host journal = true) (later : List Entry) :
    heeded host choose (later ++ journal) = heeded host choose journal := by
  induction later with
  | nil => rfl
  | cons entry later ih =>
      have still : closed host (later ++ journal) = true := by
        rw [closed_iff] at shut ⊢
        exact List.mem_append_right later shut
      cases entry <;> simp [heeded, ih, still]

/-- No more broadcasts are heeded than there are. -/
theorem heeded_le : heeded host choose journal ≤ broadcasts host choose journal := by
  induction journal with
  | nil => simp [heeded]
  | cons entry journal ih =>
      cases entry <;> simp only [heeded, broadcasts, List.countP_cons] at ih ⊢ <;> try omega
      next place signal =>
        have once : (if place = host ∧ choose signal = true ∧ ¬ closed host journal = true then 1 else 0) ≤
            if (place == host && choose signal) = true then 1 else 0 := by
          split
          · next holds => simp [holds.1, holds.2.1]
          · exact Nat.zero_le _
        omega

/-- Only the closing of the host shuts receivers out. -/
theorem shutOut_cons (other : entry ≠ .shutDownBegan host) :
    ShutOut host (entry :: journal) id ↔ ShutOut host journal id := by
  constructor
  · intro holds
    obtain ⟨later, earlier, same, member⟩ := holds
    cases later with
    | nil => exact absurd (List.cons.inj same).1 other
    | cons first later => exact ⟨later, earlier, (List.cons.inj same).2, member⟩
  · intro holds
    obtain ⟨later, earlier, same, member⟩ := holds
    exact ⟨entry :: later, earlier, by rw [same, List.cons_append], member⟩

/-- Only what was accepted can be shut out. -/
theorem ShutOut.accepted (out : ShutOut host journal id) : Entry.accepted host id ∈ journal := by
  obtain ⟨later, earlier, rfl, member⟩ := out
  simp [member]

/-- A turn may be added for a receiver that has not been shut out. -/
theorem Hushed.cons (hushed : Hushed host journal)
    (allowed : ∀ id, entry = .turnBegan host id → ¬ ShutOut host journal id) :
    Hushed host (entry :: journal) := by
  intro later earlier id same
  cases later with
  | nil =>
      obtain ⟨first, rfl⟩ := List.cons.inj same
      exact allowed id first
  | cons first later => exact hushed later earlier id (List.cons.inj same).2

/-- A cut of the journal shows what the law of turns says of later entries. -/
theorem Hushed.later (hushed : Hushed host journal) {later earlier : List Entry}
    (cut : journal = later ++ .shutDownBegan host :: earlier) (entered : Entry.accepted host id ∈ earlier) :
    Entry.turnBegan host id ∉ later := by
  intro member
  obtain ⟨last, first, rfl⟩ := List.append_of_mem member
  refine hushed last (first ++ .shutDownBegan host :: earlier) id (by simp [cut]) ?_
  exact ⟨first, earlier, rfl, entered⟩

/-- A tick that begins pays off one that was to come. -/
theorem balance_tickBegan : balance host choose (.tickBegan host signal :: journal) =
    balance host choose journal - (choose signal).toNat := by
  cases chosen : choose signal <;> simp [balance, heeded, commanded, ticks, chosen]
  omega

/-- A tick that begins leaves its loose units to be run. -/
theorem spare_tickBegan : spare host choose (.tickBegan host signal :: journal) =
    spare host choose journal + (choose signal).toNat := by
  cases chosen : choose signal <;> simp [spare, ticks, units, chosen]
  omega

/-- Loose units do not settle what ticks are to come. -/
theorem balance_unitsBegan (names : List String) :
    balance host choose (.unitsBegan host names signal :: journal) = balance host choose journal := by
  simp [balance, heeded, commanded, ticks]

/-- Loose units that begin are no longer to be run. -/
theorem spare_unitsBegan (names : List String) :
    spare host choose (.unitsBegan host names signal :: journal) =
      spare host choose journal - (choose signal).toNat := by
  cases chosen : choose signal <;> simp [spare, ticks, units, chosen]
  omega

/-- A commanded tick is to come. -/
theorem balance_commanded : balance host choose (.tickCommanded host signal :: journal) =
    balance host choose journal + (choose signal).toNat := by
  cases chosen : choose signal <;> simp [balance, heeded, commanded, ticks, chosen]
  omega

/-- A command runs no loose units itself. -/
theorem spare_commanded : spare host choose (.tickCommanded host signal :: journal) =
    spare host choose journal := by
  simp [spare, ticks, units]

/-- A broadcast counts as long as the host is open. -/
theorem balance_broadcast : balance host choose (.broadcast host signal :: journal) =
    balance host choose journal + (if closed host journal then 0 else (choose signal).toNat) := by
  cases chosen : choose signal <;> cases shut : closed host journal <;>
    simp [balance, heeded, commanded, ticks, chosen, shut]
  omega

/-- A broadcast runs no loose units itself. -/
theorem spare_broadcast : spare host choose (.broadcast host signal :: journal) =
    spare host choose journal := by
  simp [spare, ticks, units]

section Idle

variable (idle : entry.idle host = true)

include idle

/-- An idle entry closes nothing. -/
theorem closed_idle : closed host (entry :: journal) = closed host journal := by
  cases entry <;> simp_all [closed, Entry.idle]

/-- An idle entry neither promises a tick nor keeps one. -/
theorem balance_idle : balance host choose (entry :: journal) = balance host choose journal := by
  cases entry <;> simp_all [balance, heeded, commanded, ticks, Entry.idle]

/-- An idle entry leaves the loose units as they are. -/
theorem spare_idle : spare host choose (entry :: journal) = spare host choose journal := by
  cases entry <;> simp_all [spare, ticks, units, Entry.idle]

/-- An idle entry begins no turn of a receiver of the host. -/
theorem hushed_idle (hushed : Hushed host journal) : Hushed host (entry :: journal) := by
  apply hushed.cons
  rintro id rfl
  simp [Entry.idle] at idle

/-- An idle entry tells nothing of the host. -/
theorem telling_idle : entry.telling host = false := by
  cases entry <;> simp_all [Entry.idle, Entry.telling]

end Idle

section Timeless

variable (timeless : entry.timeless = true)

include timeless

/-- An entry without ticks and ends closes nothing. -/
theorem closed_timeless : closed host (entry :: journal) = closed host journal := by
  cases entry <;> simp_all [closed, Entry.timeless]

/-- An entry without ticks and ends settles no tick. -/
theorem balance_timeless : balance host choose (entry :: journal) = balance host choose journal := by
  cases entry <;> simp_all [balance, heeded, commanded, ticks, Entry.timeless]

/-- An entry without ticks and ends leaves the loose units as they are. -/
theorem spare_timeless : spare host choose (entry :: journal) = spare host choose journal := by
  cases entry <;> simp_all [spare, ticks, units, Entry.timeless]

end Timeless

section Timing

variable (timing : entry.timing = true)

include timing

/-- Counting a broadcast or a tick closes nothing. -/
theorem closed_timing : closed host (entry :: journal) = closed host journal := by
  cases entry <;> simp_all [closed, Entry.timing]

/-- Counting a broadcast or a tick tells of no receiver. -/
theorem telling_timing : entry.telling host = false := by
  cases entry <;> simp_all [Entry.telling, Entry.timing]

/-- Counting a broadcast or a tick begins no turn. -/
theorem hushed_timing (hushed : Hushed host journal) : Hushed host (entry :: journal) := by
  apply hushed.cons
  rintro id rfl
  cases timing

end Timing

section Telling

variable (silent : entry.telling host = false)

include silent

/-- An entry that tells nothing finalizes nobody. -/
theorem finals_silent : finals host (entry :: journal) id = finals host journal id := by
  cases entry <;> simp_all [finals, Entry.telling]

/-- An entry that tells nothing accepts nobody. -/
theorem accepted_silent :
    Entry.accepted host id ∈ entry :: journal ↔ Entry.accepted host id ∈ journal := by
  cases entry <;> simp_all [Entry.telling, Ne.symm]

/-- An entry that tells nothing shuts nobody out. -/
theorem shutOut_silent : ShutOut host (entry :: journal) id ↔ ShutOut host journal id := by
  apply shutOut_cons
  rintro rfl
  simp [Entry.telling] at silent

end Telling

end Shutdown

end ScriptHost.Session
