/-
This file reads from a journal what became of the receivers of one host.
-/
import ScriptHost.Proofs.Session.Registries

namespace ScriptHost.Session

/-- A hook plays one part for its receiver; a shutdown and a disposal both finalize it. -/
inductive Part where
  | attach
  | start
  | update
  | tick
  | finalize
  deriving DecidableEq, Repr

def Part.ofTick : Part → Bool
  | .start | .update | .tick => true
  | .attach | .finalize => false

def Arguments.ofTick : Arguments → Bool
  | .signal _ | .turn .. => true
  | _ => false

def Entry.ofTick : Entry → Bool
  | .called _ _ arguments | .finished _ arguments _ => arguments.ofTick
  | _ => false

def Entry.hook? : Entry → Option Nat
  | .called hook _ _ | .finished hook _ _ => some hook
  | _ => none

namespace Scheduler

def parts : Receiver → List (Nat × Part)
  | .system _ logic => [(logic.onTick.id, .tick), (logic.shutdown.id, .finalize)]
  | .behaviour _ _ (.hooked attach start update dispose) =>
      [(attach.id, .attach), (start.id, .start), (update.id, .update), (dispose.id, .finalize)]
  | .behaviour _ _ (.scripted ..) => []

def part? (receiver : Receiver) (hook : Nat) : Option Part :=
  (parts receiver).lookup hook

def hooks (receiver : Receiver) : List Nat :=
  (parts receiver).map Prod.fst

def heard? (receiver : Receiver) : Entry → Option Part
  | .called hook _ _ => part? receiver hook
  | _ => none

/-- The calls of a receiver stand in their order, although the journal stands latest first. -/
def calls (receiver : Receiver) (journal : List Entry) : List Part :=
  (journal.filterMap (heard? receiver)).reverse

/-- A receiver that is not finalized was attached, perhaps started, and then updated. -/
def Active : Receiver → List Part → Prop
  | .system .., heard => ∃ ticks, heard = List.replicate ticks .tick
  | .behaviour .., heard =>
      heard = [.attach] ∨ ∃ updates, heard = [.attach, .start] ++ List.replicate updates .update

/-- A receiver is finalized at most once, and nothing is called after that. -/
def Lived (receiver : Receiver) (heard : List Part) : Prop :=
  Active receiver heard ∨ ∃ active, Active receiver active ∧ heard = active ++ [.finalize]

/-- A behaviour that was rejected is disposed of, and a system that was rejected is forgotten. -/
def dismissal : Receiver → List Part
  | .system .. => []
  | .behaviour .. => [.finalize]

/-- These are all receivers that were ever accepted, each at its number. -/
def accepted (registry : Registry) : List Receiver :=
  registry.slots.map Schedule.Slot.receiver

/-- Receivers stand in the order of their numbers, and no two of them collide. -/
structure Orderly (receivers : List Receiver) (ids : List Nat) : Prop where
  increasing : ids.Pairwise (· < ·)
  kinds : (ids.filterMap fun id => receivers[id]?.bind Schedule.Receiver.kind?).Nodup
  bindings : (ids.filterMap fun id => receivers[id]?.bind Schedule.Receiver.binding?).Nodup

/-- The registry lists these receivers after the entries, which stand in their order here. -/
def listedAfter (host : Nat) (listed : List Nat) (entries : List Entry) : List Nat :=
  entries.foldl (fun listed entry =>
    match entry with
    | .listed place ids => if place = host then ids else listed
    | _ => listed) listed

/-- The call that removed the receiver has returned. -/
def Removed (host id : Nat) (journal : List Entry) : Prop :=
  ∃ ids, Entry.removed host ids ∈ journal ∧ id ∈ ids

instance (host id : Nat) (journal : List Entry) : Decidable (Removed host id journal) :=
  decidable_of_iff ((journal.any fun
    | .removed place ids => place == host && ids.contains id
    | _ => false) = true) <| by
    rw [List.any_eq_true]
    constructor
    · intro holds
      obtain ⟨entry, member, tells⟩ := holds
      cases entry <;> try cases tells
      next place ids =>
        rw [Bool.and_eq_true, beq_iff_eq, List.contains_iff_mem] at tells
        obtain ⟨rfl, inside⟩ := tells
        exact ⟨ids, member, inside⟩
    · intro holds
      obtain ⟨ids, member, inside⟩ := holds
      exact ⟨_, member, by simp [inside]⟩

/-- The receiver was removed while its own start ran, and that start has just ended well. -/
def Overtaken (host id : Nat) (receiver : Receiver) (journal : List Entry) : Prop :=
  ∃ start label arguments during before,
    part? receiver start = some .start ∧
    journal = .finished start arguments .normal ::
      (during ++ .called start label arguments :: before) ∧
    (∀ entry ∈ during, entry.ofTick = false) ∧ ¬ Removed host id before

variable {host : Nat} {receiver : Receiver} {journal : List Entry} {entry : Entry}

/-- Before the first entry nobody has been called. -/
@[simp] theorem calls_nil (receiver : Receiver) : calls receiver [] = [] := rfl

/-- The newest entry adds the call that it tells of. -/
@[simp] theorem calls_cons (receiver : Receiver) (entry : Entry) (journal : List Entry) :
    calls receiver (entry :: journal) = calls receiver journal ++ (heard? receiver entry).toList := by
  cases heard : heard? receiver entry <;> simp [calls, heard]

/-- An entry about another receiver adds no call. -/
theorem calls_cons_unheard (unheard : heard? receiver entry = none) :
    calls receiver (entry :: journal) = calls receiver journal := by
  rw [calls_cons, unheard, Option.toList_none, List.append_nil]

/-- Calls are read off one part of a journal after the other. -/
theorem calls_append (receiver : Receiver) (later earlier : List Entry) :
    calls receiver (later ++ earlier) = calls receiver earlier ++ calls receiver later := by
  simp [calls]

/-- A hook that a receiver lacks plays no part in it. -/
theorem part?_eq_none {hook : Nat} (absent : hook ∉ hooks receiver) :
    part? receiver hook = none := by
  rw [part?, List.lookup_eq_none_iff]
  intro pair member
  rw [bne_iff_ne]
  intro same
  exact absent (List.mem_map.mpr ⟨pair, member, same.symm⟩)

/-- A hook that plays a part belongs to the receiver. -/
theorem mem_hooks_of_part? {hook : Nat} {part : Part} (played : part? receiver hook = some part) :
    hook ∈ hooks receiver := by
  apply Classical.byContradiction
  intro absent
  rw [part?_eq_none absent] at played
  cases played

/-- Where hooks are distinct each one plays its own part. -/
theorem part?_of_mem {hook : Nat} {part : Part} (distinct : (hooks receiver).Nodup)
    (member : (hook, part) ∈ parts receiver) : part? receiver hook = some part := by
  unfold hooks at distinct
  unfold part?
  generalize parts receiver = pairs at distinct member
  induction pairs with
  | nil => cases member
  | cons pair pairs ih =>
      obtain ⟨other, first⟩ := pair
      rw [List.map_cons, List.nodup_cons] at distinct
      rw [List.lookup_cons]
      rcases List.mem_cons.mp member with same | later
      · obtain ⟨same, plays⟩ := Prod.mk.inj same
        rw [same, beq_self_eq_true, plays]
      · have different : hook ≠ other := by
          intro same
          rw [← same] at distinct
          exact distinct.1 (List.mem_map.mpr ⟨(hook, part), later, rfl⟩)
        rw [beq_false_of_ne different]
        exact ih distinct.2 later

/-- Calls of other hooks are not heard. -/
theorem heard?_eq_none {hook : Nat} (mentioned : entry.hook? = some hook)
    (absent : hook ∉ hooks receiver) : heard? receiver entry = none := by
  cases entry <;> simp_all [heard?, Entry.hook?, part?_eq_none]

/-- Entries about no hook are not heard. -/
theorem heard?_of_hook?_none (silent : entry.hook? = none) : heard? receiver entry = none := by
  cases entry <;> simp_all [heard?, Entry.hook?]

/-- A receiver that was not heard has not been called. -/
theorem calls_eq_nil (unheard : ∀ entry ∈ journal, heard? receiver entry = none) :
    calls receiver journal = [] := by
  rw [calls, List.filterMap_eq_nil_iff.mpr unheard, List.reverse_nil]

/-- Without entries the list stays. -/
@[simp] theorem listedAfter_nil (host : Nat) (listed : List Nat) :
    listedAfter host listed [] = listed := rfl

/-- A list is read off one part of a journal after the other. -/
theorem listedAfter_append (host : Nat) (listed : List Nat) (first second : List Entry) :
    listedAfter host listed (first ++ second) =
      listedAfter host (listedAfter host listed first) second := by
  simp only [listedAfter, List.foldl_append]

/-- An entry that lists nobody leaves the list. -/
theorem listedAfter_singleton (different : ∀ ids, entry ≠ .listed host ids) (listed : List Nat) :
    listedAfter host listed [entry] = listed := by
  cases entry <;> try rfl
  next place ids =>
    have other : place ≠ host := by
      rintro rfl
      exact different ids rfl
    simp [listedAfter, other]

/-- Entries that list nobody leave the list. -/
theorem listedAfter_unlisted {entries : List Entry}
    (unlisted : ∀ entry ∈ entries, ∀ ids, entry ≠ .listed host ids) (listed : List Nat) :
    listedAfter host listed entries = listed := by
  induction entries with
  | nil => rfl
  | cons entry entries ih =>
      have rest := ih fun entry member => unlisted entry (List.mem_cons_of_mem _ member)
      have first := unlisted entry List.mem_cons_self
      rw [← List.singleton_append, listedAfter_append, listedAfter_singleton first, rest]

/-- A receiver that has been finalized or updated once more was alive before that. -/
theorem Lived.before {heard : List Part} {last : Part} (lived : Lived receiver (heard ++ [last]))
    (later : last ≠ .attach) : Lived receiver heard := by
  rcases lived with active | ⟨active, lives, same⟩
  · cases receiver with
    | system kind logic =>
        obtain ⟨ticks, same⟩ := active
        refine Or.inl ⟨ticks - 1, ?_⟩
        have shorter := congrArg List.dropLast same
        simpa using shorter
    | behaviour entity script logic =>
        rcases active with same | ⟨updates, same⟩
        · rw [show [Part.attach] = [] ++ [Part.attach] from rfl] at same
          exact absurd (List.append_inj_right' same rfl) (by simpa using later)
        · refine Or.inl ?_
          cases updates with
          | zero =>
              rw [show [Part.attach, .start] ++ List.replicate 0 Part.update =
                [Part.attach] ++ [Part.start] from rfl] at same
              exact Or.inl (List.append_inj_left' same rfl)
          | succ updates =>
              rw [List.replicate_succ', ← List.append_assoc] at same
              exact Or.inr ⟨updates, List.append_inj_left' same rfl⟩
  · rw [List.append_inj_left' same rfl]
    exact Or.inl lives

end Scheduler

end ScriptHost.Session
