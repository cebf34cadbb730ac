/-
This file says how the receivers of a registry stand: who is registered, and how far the others are on
their way out.
-/
import ScriptHost.Proofs.Shutdown.Accounts

namespace ScriptHost.Session.Shutdown

open Schedule (Phase)

/-- This much of a registry decides who has turns and who is finalized. -/
structure Outline where
  registered : List Nat
  locked : Bool
  slots : List (Phase × Bool)

namespace Outline

def of (registry : Registry) : Outline :=
  ⟨registry.registered, registry.locked, registry.slots.map fun slot => (slot.phase, slot.busy)⟩

def setSlot (outline : Outline) (id : Nat) (state : Phase × Bool) : Outline :=
  { outline with slots := outline.slots.set id state }

def add (outline : Outline) : Outline :=
  { outline with
    registered := outline.registered ++ [outline.slots.length]
    slots := outline.slots ++ [(.live, false)] }

def busy (outline : Outline) (id : Nat) : Bool :=
  (outline.slots[id]?.map Prod.snd).getD false

/-- The receiver has left the registry, but nobody has retired it yet. -/
def Loose (outline : Outline) (id : Nat) : Prop :=
  id ∉ outline.registered ∧ outline.slots[id]?.map Prod.fst = some .live

end Outline

/-- A receiver is finalized once, after it has left the registry; only a busy one waits for that. -/
def Stands (registered : Prop) (finals : Nat) : Phase × Bool → Prop
  | (.live, _) => finals = 0
  | (.leaving, busy) => ¬ registered ∧ busy = true ∧ finals = 0
  | (.gone, _) => ¬ registered ∧ finals = 1

/-- Whoever is registered has not been shut out. -/
def Strict (host : Nat) (outline : Outline) (journal : List Entry) : Prop :=
  ∀ id ∈ outline.registered, ¬ ShutOut host journal id

/-- The journal of a registry tells where its receivers stand. A host that closes while its registry is
locked gets stuck. -/
structure Tidy (host : Nat) (outline : Outline) (journal : List Entry) : Prop where
  known : ∀ id ∈ outline.registered, id < outline.slots.length
  stands : ∀ id state, outline.slots[id]? = some state →
    Stands (id ∈ outline.registered) (finals host journal id) state
  entered : ∀ id, Entry.accepted host id ∈ journal ↔ id < outline.slots.length
  unheard : ∀ id, outline.slots.length ≤ id → finals host journal id = 0
  strict : outline.locked = false → Strict host outline journal

variable {host id : Nat} {outline : Outline} {journal : List Entry} {entry : Entry} {registry : Registry}
  {slot : Slot}

/-- An outline is locked if its registry is. -/
@[simp] theorem of_locked : (Outline.of registry).locked = registry.locked := rfl

/-- An outline has all slots of its registry. -/
@[simp] theorem of_length : (Outline.of registry).slots.length = registry.slots.length :=
  List.length_map _

/-- An outline shows how far a receiver is and whether it is busy. -/
theorem of_held (held : registry.slots[id]? = some slot) :
    (Outline.of registry).slots[id]? = some (slot.phase, slot.busy) := by
  simp [Outline.of, held]

/-- Changing a slot changes its place in the outline. -/
@[simp] theorem of_setSlot : Outline.of (registry.setSlot id slot) =
    (Outline.of registry).setSlot id (slot.phase, slot.busy) := by
  simp [Outline.of, Outline.setSlot, Schedule.Registry.setSlot, List.map_set]

/-- Adding a receiver adds its place to the outline. -/
theorem of_add (receiver : Receiver) :
    Outline.of (registry.add receiver).1 = (Outline.of registry).add := by
  simp [Outline.of, Outline.add, Schedule.Registry.add]

/-- Writing what is there already changes nothing. -/
theorem setSlot_held {state : Phase × Bool} (held : outline.slots[id]? = some state) :
    outline.setSlot id state = outline := by
  have same : outline.slots.set id state = outline.slots := by
    apply List.ext_getElem?
    intro index
    rw [List.getElem?_set]
    split
    · next equal =>
        subst equal
        rw [if_pos (List.getElem?_eq_some_iff.mp held).1, held]
    · rfl
  rw [Outline.setSlot, same]

/-- A registered receiver is live. -/
theorem Tidy.live (tidy : Tidy host outline journal) (registered : id ∈ outline.registered) :
    ∃ busy, outline.slots[id]? = some (.live, busy) := by
  obtain ⟨⟨phase, busy⟩, held⟩ : ∃ state, outline.slots[id]? = some state :=
    ⟨_, List.getElem?_eq_getElem (tidy.known id registered)⟩
  have stands := tidy.stands id _ held
  cases phase with
  | live => exact ⟨busy, held⟩
  | leaving => exact absurd registered stands.1
  | gone => exact absurd registered stands.1

/-- An entry that tells nothing does not shut out whoever is registered. -/
theorem strict_silent (silent : entry.telling host = false) :
    Strict host outline (entry :: journal) ↔ Strict host outline journal := by
  unfold Strict
  simp only [shutOut_silent silent]

/-- An entry that tells nothing leaves a registry tidy. -/
theorem Tidy.silent (tidy : Tidy host outline journal) (silent : entry.telling host = false) :
    Tidy host outline (entry :: journal) where
  known := tidy.known
  stands id state held := by
    rw [finals_silent silent]
    exact tidy.stands id state held
  entered id := (accepted_silent silent).trans (tidy.entered id)
  unheard id outside := by
    rw [finals_silent silent]
    exact tidy.unheard id outside
  strict unlocked := (strict_silent silent).mpr (tidy.strict unlocked)

/-- A registry may be locked, and unlocked if nobody in it has been shut out. -/
theorem Tidy.lock (tidy : Tidy host outline journal) {locked : Bool}
    (strict : locked = false → Strict host outline journal) :
    Tidy host { outline with locked } journal :=
  { tidy with strict }

/-- Receivers may leave the registry at any time. -/
theorem Tidy.leave (tidy : Tidy host outline journal) {fewer : List Nat}
    (subset : ∀ id ∈ fewer, id ∈ outline.registered) :
    Tidy host { outline with registered := fewer } journal where
  known id member := tidy.known id (subset id member)
  stands id state held := by
    have stands := tidy.stands id state held
    rcases state with ⟨_ | _ | _, busy⟩
    · exact stands
    · exact ⟨fun member => stands.1 (subset id member), stands.2⟩
    · exact ⟨fun member => stands.1 (subset id member), stands.2⟩
  entered := tidy.entered
  unheard := tidy.unheard
  strict unlocked id member := tidy.strict unlocked id (subset id member)

/-- Closing finalizes nobody by itself. -/
theorem finals_closing : finals host (.shutDownBegan host :: journal) id = finals host journal id := by
  simp [finals]

/-- Closing accepts nobody. -/
theorem accepted_closing :
    Entry.accepted host id ∈ .shutDownBegan host :: journal ↔ Entry.accepted host id ∈ journal := by
  simp

/-- A host that closes is left by all its receivers, or it is stuck with them. -/
theorem Tidy.close (tidy : Tidy host outline journal)
    (empty : outline.locked = false → outline.registered = []) :
    Tidy host outline (.shutDownBegan host :: journal) where
  known := tidy.known
  stands id state held := by
    rw [finals_closing]
    exact tidy.stands id state held
  entered id := accepted_closing.trans (tidy.entered id)
  unheard id outside := by
    rw [finals_closing]
    exact tidy.unheard id outside
  strict unlocked id member := by
    rw [empty unlocked] at member
    cases member

/-- A place that is read is the one that was written, or it is as it was. -/
theorem setSlot_read {state other : Phase × Bool} {index : Nat}
    (read : (outline.setSlot id state).slots[index]? = some other) :
    index = id ∧ other = state ∨ index ≠ id ∧ outline.slots[index]? = some other := by
  unfold Outline.setSlot at read
  rw [List.getElem?_set] at read
  split at read
  · next same =>
      split at read
      · exact Or.inl ⟨same.symm, (Option.some.inj read).symm⟩
      · cases read
  · next different => exact Or.inr ⟨Ne.symm different, read⟩

/-- A place may be written if the receiver then stands as the journal tells. -/
theorem Tidy.setSlot (tidy : Tidy host outline journal) {state : Phase × Bool}
    (stands : Stands (id ∈ outline.registered) (finals host journal id) state) :
    Tidy host (outline.setSlot id state) journal where
  known index member := by
    have inside := tidy.known index member
    simpa [Outline.setSlot] using inside
  stands index other read := by
    rcases setSlot_read read with ⟨rfl, rfl⟩ | ⟨-, read⟩
    · exact stands
    · exact tidy.stands index other read
  entered index := by simpa [Outline.setSlot] using tidy.entered index
  unheard index outside := tidy.unheard index (by simpa [Outline.setSlot] using outside)
  strict := tidy.strict

/-- A receiver that has left the registry is finalized. -/
theorem Tidy.finalize (tidy : Tidy host outline journal) {phase : Phase} {busy : Bool}
    (held : outline.slots[id]? = some (phase, busy)) (alive : phase ≠ .gone)
    (out : id ∉ outline.registered) (later : Bool) :
    Tidy host (outline.setSlot id (.gone, later)) (.finalized host id :: journal) where
  known index member := by
    have inside := tidy.known index member
    simpa [Outline.setSlot] using inside
  stands index other read := by
    rcases setSlot_read read with ⟨rfl, rfl⟩ | ⟨different, read⟩
    · have before : finals host journal index = 0 := by
        have stands := tidy.stands index _ held
        cases phase with
        | live => exact stands
        | leaving => exact stands.2.2
        | gone => exact absurd rfl alive
      refine ⟨out, ?_⟩
      rw [finals, List.countP_cons_of_pos (by simp)]
      exact congrArg (· + 1) before
    · have elsewhere : finals host (.finalized host id :: journal) index = finals host journal index := by
        rw [finals, List.countP_cons_of_neg (by simp [different.symm])]
        rfl
      rw [elsewhere]
      exact tidy.stands index other read
  entered index := by simpa [Outline.setSlot] using tidy.entered index
  unheard index outside := by
    have inside := (List.getElem?_eq_some_iff.mp held).1
    have beyond : outline.slots.length ≤ index := by simpa [Outline.setSlot] using outside
    have different : id ≠ index := by omega
    rw [finals, List.countP_cons_of_neg (by simp [different])]
    exact tidy.unheard index beyond
  strict unlocked index member := by
    rw [shutOut_cons (by simp)]
    exact tidy.strict unlocked index member

/-- A receiver that comes has not been heard of before. -/
theorem Tidy.add (tidy : Tidy host outline journal) :
    Tidy host outline.add (.accepted host outline.slots.length :: journal) where
  known index member := by
    have inside := tidy.known index
    simp only [Outline.add, List.mem_append, List.mem_singleton, List.length_append,
      List.length_singleton] at member ⊢
    rcases member with member | rfl
    · exact Nat.lt_succ_of_lt (inside member)
    · exact Nat.lt_succ_self _
  stands index state read := by
    have same : finals host (.accepted host outline.slots.length :: journal) index =
        finals host journal index := by simp [finals]
    rw [same]
    simp only [Outline.add] at read ⊢
    by_cases old : index < outline.slots.length
    · rw [List.getElem?_append_left old] at read
      have stands := tidy.stands index state read
      have registered : index ∈ outline.registered ++ [outline.slots.length] ↔
          index ∈ outline.registered := by
        simp [Nat.ne_of_lt old]
      rwa [registered]
    · rw [List.getElem?_append_right (Nat.le_of_not_lt old), List.getElem?_singleton] at read
      split at read
      · rw [← Option.some.inj read]
        exact tidy.unheard index (Nat.le_of_not_lt old)
      · cases read
  entered index := by
    have old := tidy.entered index
    simp only [Outline.add, List.mem_cons, Entry.accepted.injEq, true_and, old, List.length_append,
      List.length_singleton]
    omega
  unheard index outside := by
    have same : finals host (.accepted host outline.slots.length :: journal) index =
        finals host journal index := by simp [finals]
    rw [same]
    apply tidy.unheard
    simp only [Outline.add, List.length_append, List.length_singleton] at outside
    omega
  strict unlocked index member := by
    rw [shutOut_cons (by simp)]
    simp only [Outline.add, List.mem_append, List.mem_singleton] at member
    rcases member with member | rfl
    · exact tidy.strict unlocked index member
    · intro out
      exact Nat.lt_irrefl _ ((tidy.entered _).mp out.accepted)

end ScriptHost.Session.Shutdown
