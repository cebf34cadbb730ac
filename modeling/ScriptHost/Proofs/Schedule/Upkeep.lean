/-
This file holds the invariant of a registry and the steps that keep it.
-/
import ScriptHost.Proofs.Schedule.Story

namespace ScriptHost.Session

/-- Such a command lets receivers of one host come or go, and so do the hooks that it brings along. Nothing
happens while a behaviour is attached. -/
inductive Manages (name : String) : Command Operation → Prop
  | registerSystem (title : String) (kind : Nat) (label : String) (hooks : SystemHooks Operation)
      (onTick : ∀ count, ∀ command ∈ (hooks.onTick.turn count).commands, Manages name command)
      (shutdown : ∀ count, ∀ command ∈ (hooks.shutdown.turn count).commands, Manages name command) :
      Manages name ⟨title, name, .registerSystem kind label hooks⟩
  | registerBehaviour (title : String) (entity : EntityName) (script label : String)
      (hooks : BehaviourHooks Operation)
      (attach : ∀ count, (hooks.attach.turn count).commands = [])
      (start : ∀ count, ∀ command ∈ (hooks.start.turn count).commands, Manages name command)
      (update : ∀ count, ∀ command ∈ (hooks.update.turn count).commands, Manages name command)
      (dispose : ∀ count, ∀ command ∈ (hooks.dispose.turn count).commands, Manages name command) :
      Manages name ⟨title, name, .registerBehaviour entity script label hooks⟩
  | unregister (title handle : String) : Manages name ⟨title, name, .unregister handle⟩
  | purgeBehaviours (title : String) : Manages name ⟨title, name, .purgeBehaviours⟩
  | purgeEntity (title : String) (entity : EntityName) :
      Manages name ⟨title, name, .purgeEntity entity⟩
  | shutDown (title : String) : Manages name ⟨title, name, .shutDownScheduler⟩

def Hook.Managing (name : String) (hook : Hook Operation) : Prop :=
  ∀ count, ∀ command ∈ (hook.turn count).commands, Manages name command

def Hook.Idle (hook : Hook Operation) : Prop :=
  ∀ count, (hook.turn count).commands = []

namespace Scheduler

def Managed (name : String) : Receiver → Prop
  | .system _ logic => logic.onTick.hook.Managing name ∧ logic.shutdown.hook.Managing name
  | .behaviour _ _ (.hooked attach start update dispose) =>
      attach.hook.Idle ∧ start.hook.Managing name ∧ update.hook.Managing name ∧
        dispose.hook.Managing name
  | .behaviour _ _ (.scripted ..) => False

def rejected (host : Nat) (journal : List Entry) : List Receiver :=
  journal.filterMap fun
    | .rejected place receiver => if place = host then some receiver else none
    | _ => none

/-- These hooks belong to a receiver that was accepted or rejected. -/
def owned (host : Nat) (registry : Registry) (journal : List Entry) : List Nat :=
  (accepted registry ++ rejected host journal).flatMap hooks

/-- These calls agree with what the slot says of its receiver, while it is not finalized. -/
def Progress (slot : Slot) (heard : List Part) : Prop :=
  match slot.receiver with
  | .system .. => ∃ ticks, heard = List.replicate ticks .tick
  | .behaviour .. =>
      if slot.started then
        ∃ updates, heard = [.attach, .start] ++ List.replicate updates .update
      else heard = [.attach]

/-- These calls agree with the slot. -/
def Lives (slot : Slot) (heard : List Part) : Prop :=
  ∃ active, Progress slot active ∧
    heard = active ++ if slot.phase = .gone then [.finalize] else []

/-- A receiver that remains is live, and the others are finalized, but for the one that is busy. -/
structure Stands (remains : Prop) (running : Option Nat) (id : Nat) (slot : Slot) : Prop where
  live : remains → slot.phase = .live
  ended : ¬ remains → slot.phase = .gone ∨ slot.phase = .leaving ∧ running = some id
  busy : slot.busy = true ↔ running = some id
  unfinished : running = some id → slot.phase ≠ .gone

/-- The invariant of a registry: receivers in `waiting` are taken out but not yet retired, and `running` is
the one whose hook runs in a tick. -/
structure Kept (name : String) (host : Nat) (waiting : List Nat) (running : Option Nat)
    (registry : Registry) (hookCount : Nat) (journal : List Entry) : Prop where
  unlocked : registry.locked = false
  orderly : Orderly (accepted registry) registry.registered
  within : ∀ id ∈ registry.registered, id < registry.slots.length
  apart : ∀ id ∈ waiting, id ∉ registry.registered ∧ id < registry.slots.length
  once : waiting.Nodup
  inside : ∀ id, running = some id → id < registry.slots.length
  managed : ∀ receiver ∈ accepted registry, Managed name receiver
  single : (owned host registry journal).Nodup
  known : ∀ hook ∈ owned host registry journal, hook < hookCount
  mentioned : ∀ entry ∈ journal, ∀ hook, entry.hook? = some hook → hook < hookCount
  dismissed : ∀ receiver, Entry.rejected host receiver ∈ journal →
    calls receiver journal = dismissal receiver
  stands : ∀ (id : Nat) (slot : Slot), registry.slots[id]? = some slot →
    Stands (id ∈ registry.registered ∨ id ∈ waiting) running id slot
  lives : ∀ (id : Nat) (slot : Slot), registry.slots[id]? = some slot →
    Lives slot (calls slot.receiver journal)
  story : Story host registry journal

variable {name : String} {host : Nat} {waiting : List Nat} {running : Option Nat} {registry : Registry}
  {hookCount : Nat} {journal : List Entry}

/-- Whoever holds a slot was accepted. -/
theorem mem_accepted {id : Nat} {slot : Slot} (held : registry.slots[id]? = some slot) :
    slot.receiver ∈ accepted registry :=
  List.mem_map.mpr ⟨slot, List.mem_of_getElem? held, rfl⟩

/-- Whoever was turned away is written down as such. -/
theorem mem_rejected {receiver : Receiver} :
    receiver ∈ rejected host journal ↔ Entry.rejected host receiver ∈ journal := by
  simp only [rejected, List.mem_filterMap]
  constructor
  · intro holds
    obtain ⟨entry, member, read⟩ := holds
    cases entry <;> simp only [reduceCtorEq] at read
    next place other =>
      split at read
      · next same =>
          subst same
          rw [← Option.some.inj read]
          exact member
      · cases read
  · intro member
    exact ⟨_, member, by simp⟩

/-- A hook belongs to one receiver only. -/
theorem Kept.owner (kept : Kept name host waiting running registry hookCount journal)
    {first second : Nat} {one other : Slot} {hook : Nat}
    (left : registry.slots[first]? = some one) (right : registry.slots[second]? = some other)
    (of : hook ∈ hooks one.receiver) (too : hook ∈ hooks other.receiver) : first = second := by
  have disjoint := (List.nodup_flatMap.mp kept.single).2
  have apart := List.pairwise_iff_getElem.mp (List.pairwise_append.mp disjoint).1
  obtain ⟨firstInside, oneHeld⟩ := List.getElem?_eq_some_iff.mp left
  obtain ⟨secondInside, otherHeld⟩ := List.getElem?_eq_some_iff.mp right
  have firstBound : first < (accepted registry).length := by rwa [accepted_length]
  have secondBound : second < (accepted registry).length := by rwa [accepted_length]
  have oneAt : (accepted registry)[first] = one.receiver := by simp [accepted, oneHeld]
  have otherAt : (accepted registry)[second] = other.receiver := by simp [accepted, otherHeld]
  rcases Nat.lt_trichotomy first second with before | same | after
  · have clash := apart first second firstBound secondBound before
    exact absurd too (clash (by rw [oneAt]; exact of) <| by rw [otherAt]; exact ·)
  · exact same
  · have clash := apart second first secondBound firstBound after
    exact absurd of (clash (by rw [otherAt]; exact too) <| by rw [oneAt]; exact ·)

/-- The hooks of whoever holds a slot are owned. -/
theorem mem_owned {id : Nat} {slot : Slot} {hook : Nat} (held : registry.slots[id]? = some slot)
    (of : hook ∈ hooks slot.receiver) : hook ∈ owned host registry journal :=
  List.mem_flatMap.mpr ⟨slot.receiver, List.mem_append_left _ (mem_accepted held), of⟩

/-- A rejected receiver shares no hook with one that was accepted. -/
theorem Kept.rejected_apart (kept : Kept name host waiting running registry hookCount journal)
    {id : Nat} {slot : Slot} {receiver : Receiver} {hook : Nat}
    (held : registry.slots[id]? = some slot) (dismissed : Entry.rejected host receiver ∈ journal)
    (of : hook ∈ hooks slot.receiver) : hook ∉ hooks receiver := by
  have disjoint := (List.nodup_flatMap.mp kept.single).2
  have apart := (List.pairwise_append.mp disjoint).2.2 slot.receiver (mem_accepted held) receiver
    (mem_rejected.mpr dismissed)
  exact fun too => apart of too

/-- A hook plays the same part for whoever it belongs to. -/
theorem Kept.plays (kept : Kept name host waiting running registry hookCount journal)
    {owner receiver : Receiver} {hook : Nat} {part other : Part}
    (owns : owner ∈ accepted registry ∨ Entry.rejected host owner ∈ journal)
    (played : part? owner hook = some part) (member : receiver ∈ accepted registry)
    (too : part? receiver hook = some other) : other = part := by
  have disjoint := (List.nodup_flatMap.mp kept.single).2
  have owns : owner ∈ accepted registry ++ rejected host journal := by
    rw [List.mem_append, mem_rejected]
    exact owns
  by_cases same : receiver = owner
  · subst same
    exact Option.some.inj (too.symm.trans played)
  · have symmetric : Std.Symm (Function.onFun List.Disjoint hooks) :=
      ⟨fun _ _ clash _ left right => clash right left⟩
    have apart := disjoint.forall (List.mem_append_left _ member) owns same
    exact absurd (mem_hooks_of_part? played) (apart (mem_hooks_of_part? too))

/-- The hooks of a receiver are distinct. -/
theorem Kept.distinct (kept : Kept name host waiting running registry hookCount journal)
    {id : Nat} {slot : Slot} (held : registry.slots[id]? = some slot) :
    (hooks slot.receiver).Nodup :=
  (List.nodup_flatMap.mp kept.single).1 _ (List.mem_append_left _ (mem_accepted held))

/-- Hooks that are owned have been numbered. -/
theorem Kept.known_of (kept : Kept name host waiting running registry hookCount journal)
    {owner : Receiver} {hook : Nat}
    (owns : owner ∈ accepted registry ∨ Entry.rejected host owner ∈ journal)
    (of : hook ∈ hooks owner) : hook < hookCount := by
  refine kept.known hook (List.mem_flatMap.mpr ⟨owner, ?_, of⟩)
  rw [List.mem_append, mem_rejected]
  exact owns

/-- An entry that turns nobody away leaves the others as they are. -/
theorem rejected_cons {entry : Entry} (different : ∀ receiver, entry ≠ .rejected host receiver) :
    rejected host (entry :: journal) = rejected host journal := by
  cases entry <;> try rfl
  next place receiver =>
    have other : place ≠ host := by
      rintro rfl
      exact different receiver rfl
    simp [rejected, other]

/-- A slot stands as well where the same remains and the same runs. -/
theorem Stands.shift {remains remains' : Prop} {running running' : Option Nat} {id : Nat} {slot : Slot}
    (stands : Stands remains running id slot) (same : remains' ↔ remains)
    (runs : running' = some id ↔ running = some id) : Stands remains' running' id slot where
  live held := stands.live (same.mp held)
  ended lost := by
    rw [runs]
    exact stands.ended (fun held => lost (same.mpr held))
  busy := stands.busy.trans runs.symm
  unfinished runs' := stands.unfinished (runs.mp runs')

/-- A silent entry mentions no new hook. -/
theorem Kept.mentioned_aside (kept : Kept name host waiting running registry hookCount journal) {entry : Entry}
    (silent : entry.hook? = none) :
    ∀ other ∈ entry :: journal, ∀ hook, other.hook? = some hook → hook < hookCount := by
  refine List.forall_mem_cons.mpr ⟨fun hook mention => ?_, kept.mentioned⟩
  rw [silent] at mention
  cases mention

/-- An entry that no receiver hears changes nothing but the journal. -/
theorem Kept.write (kept : Kept name host waiting running registry hookCount journal) {entry : Entry}
    (plain : Plain host entry) (mentioned : ∀ hook, entry.hook? = some hook → hook < hookCount)
    (unheard : ∀ receiver, receiver ∈ accepted registry ∨ Entry.rejected host receiver ∈ journal →
      heard? receiver entry = none) (answers : Answers registry journal entry) :
    Kept name host waiting running registry hookCount (entry :: journal) where
  unlocked := kept.unlocked
  orderly := kept.orderly
  within := kept.within
  apart := kept.apart
  once := kept.once
  inside := kept.inside
  managed := kept.managed
  single := by
    rw [owned, rejected_cons (by rintro receiver rfl; exact plain rfl)]
    exact kept.single
  known := by
    rw [owned, rejected_cons (by rintro receiver rfl; exact plain rfl)]
    exact kept.known
  mentioned := List.forall_mem_cons.mpr ⟨mentioned, kept.mentioned⟩
  dismissed receiver member := by
    rcases List.mem_cons.mp member with same | member
    · subst same
      exact absurd rfl plain
    · rw [calls_cons_unheard (unheard receiver (Or.inr member))]
      exact kept.dismissed receiver member
  stands := kept.stands
  lives id slot held := by
    rw [calls_cons_unheard (unheard _ (Or.inl (mem_accepted held)))]
    exact kept.lives id slot held
  story := by
    refine kept.story.note answers plain ?_
    cases entry <;> try trivial
    next hook label arguments =>
      intro id receiver part held played
      have silent := unheard receiver (Or.inl (List.mem_of_getElem? held))
      rw [show part? receiver hook = none from silent] at played
      cases played

/-- A plain note keeps the invariant. -/
theorem Kept.note (kept : Kept name host waiting running registry hookCount journal)
    (closed : Closed registry journal) {entry : Entry} (plain : Plain host entry)
    (silent : entry.hook? = none) :
    Kept name host waiting running registry hookCount (entry :: journal) := by
  refine kept.write plain ?_ (fun _ _ => heard?_of_hook?_none silent) (closed.answers entry)
  intro hook mentioned
  rw [silent] at mentioned
  cases mentioned

/-- A hook that finishes keeps the invariant. -/
theorem Kept.finish (kept : Kept name host waiting running registry hookCount journal)
    (closed : Closed registry journal) {hook : Nat} (arguments : Arguments) (ending : Ending)
    (known : hook < hookCount) :
    Kept name host waiting running registry hookCount (.finished hook arguments ending :: journal) := by
  refine kept.write trivial ?_ (fun _ _ => rfl) (closed.answers _)
  intro mentioned same
  rw [← Option.some.inj same]
  exact known

/-- A hook that belongs to nobody yet is called. -/
theorem Kept.stranger (kept : Kept name host waiting running registry hookCount journal)
    (closed : Closed registry journal) {hook : Nat} (label : String) (arguments : Arguments)
    (known : hook < hookCount) (fresh : hook ∉ owned host registry journal) :
    Kept name host waiting running registry hookCount (.called hook label arguments :: journal) := by
  refine kept.write trivial ?_ ?_ (closed.answers _)
  · intro mentioned same
    rw [← Option.some.inj same]
    exact known
  · intro receiver member
    refine heard?_eq_none rfl fun too => fresh (List.mem_flatMap.mpr ⟨receiver, ?_, too⟩)
    rw [List.mem_append, mem_rejected]
    exact member

/-- More hooks may be numbered. -/
theorem Kept.grow (kept : Kept name host waiting running registry hookCount journal) {more : Nat}
    (less : hookCount ≤ more) : Kept name host waiting running registry more journal :=
  { kept with
    known := fun hook member => Nat.lt_of_lt_of_le (kept.known hook member) less
    mentioned := fun entry member hook same =>
      Nat.lt_of_lt_of_le (kept.mentioned entry member hook same) less }

/-- The receivers that wait or run change only at one slot. -/
structure Shift (id : Nat) (waiting waiting' : List Nat) (running running' : Option Nat) : Prop where
  waits : ∀ other, other ≠ id → (other ∈ waiting' ↔ other ∈ waiting)
  runs : ∀ other, other ≠ id → (running' = some other ↔ running = some other)

/-- Nobody has to be shifted. -/
theorem Shift.none (id : Nat) (waiting : List Nat) (running : Option Nat) :
    Shift id waiting waiting running running :=
  ⟨fun _ _ => Iff.rfl, fun _ _ => Iff.rfl⟩

/-- Whoever runs has a place. -/
theorem Shift.inside {id : Nat} {slot : Slot} {waiting waiting' : List Nat}
    {running running' : Option Nat} (shift : Shift id waiting waiting' running running')
    (held : registry.slots[id]? = some slot)
    (inside : ∀ other, running = some other → other < registry.slots.length) :
    ∀ other, running' = some other → other < registry.slots.length := by
  intro other runs
  by_cases same : other = id
  · subst same
    exact (List.getElem?_eq_some_iff.mp held).1
  · exact inside other ((shift.runs other same).mp runs)

/-- A slot that is read is the one that was set, or another one that stays. -/
theorem setSlot_read {id other : Nat} {slot changed found : Slot}
    (held : registry.slots[id]? = some slot)
    (read : (registry.setSlot id changed).slots[other]? = some found) :
    other = id ∧ found = changed ∨ other ≠ id ∧ registry.slots[other]? = some found := by
  have inside := (List.getElem?_eq_some_iff.mp held).1
  change (registry.slots.set id changed)[other]? = some found at read
  by_cases same : other = id
  · subst same
    rw [List.getElem?_set_self inside] at read
    exact Or.inl ⟨rfl, (Option.some.inj read).symm⟩
  · rw [List.getElem?_set_ne (Ne.symm same)] at read
    exact Or.inr ⟨same, read⟩

/-- One slot moves on, and all others stand as they did. -/
theorem Kept.stands_setSlot {waiting' : List Nat} {running' : Option Nat} {id : Nat} {slot changed : Slot}
    (kept : Kept name host waiting running registry hookCount journal) (held : registry.slots[id]? = some slot)
    (shift : Shift id waiting waiting' running running')
    (stands : Stands (id ∈ registry.registered ∨ id ∈ waiting') running' id changed) (other : Nat) (found : Slot)
    (read : (registry.setSlot id changed).slots[other]? = some found) :
    Stands (other ∈ registry.registered ∨ other ∈ waiting') running' other found := by
  rcases setSlot_read held read with ⟨rfl, rfl⟩ | ⟨different, read⟩
  · exact stands
  · exact (kept.stands other found read).shift (or_congr Iff.rfl (shift.waits other different))
      (shift.runs other different)

/-- A hook of a receiver is called, and its slot moves on. -/
theorem Kept.call {waiting' : List Nat} {running' : Option Nat} {id hook : Nat} {slot : Slot}
    {part : Part} (kept : Kept name host waiting running registry hookCount journal)
    (held : registry.slots[id]? = some slot) (changed : Slot)
    (same : changed.receiver = slot.receiver)
    (played : part? slot.receiver hook = some part) (label : String) (arguments : Arguments)
    (apart : ∀ other ∈ waiting', other ∉ registry.registered ∧ other < registry.slots.length)
    (once : waiting'.Nodup) (shift : Shift id waiting waiting' running running')
    (stands : Stands (id ∈ registry.registered ∨ id ∈ waiting') running' id changed)
    (lives : Lives changed (calls slot.receiver journal ++ [part]))
    (answers : Answers registry journal (.called hook label arguments))
    (permitted : part.ofTick = true → Removed host id journal →
      part = .update ∧ Overtaken host id slot.receiver journal) :
    Kept name host waiting' running' (registry.setSlot id changed) hookCount
      (.called hook label arguments :: journal) := by
  have everyone : accepted (registry.setSlot id changed) = accepted registry :=
    accepted_setSlot held changed same
  have length := registry.setSlot_length id changed
  have hooked := mem_hooks_of_part? played
  have known := kept.known hook (mem_owned held hooked)
  have keep : owned host (registry.setSlot id changed) (.called hook label arguments :: journal) =
      owned host registry journal := by
    rw [owned, everyone]
    rfl
  refine
    { unlocked := kept.unlocked
      orderly := by rw [everyone]; exact kept.orderly
      within := by rw [length]; exact kept.within
      apart := by rw [length]; exact apart
      once := once
      inside := by rw [length]; exact shift.inside held kept.inside
      managed := by rw [everyone]; exact kept.managed
      single := by rw [keep]; exact kept.single
      known := by rw [keep]; exact kept.known
      mentioned := ?mentioned
      dismissed := ?dismissed
      stands := kept.stands_setSlot held shift stands
      lives := ?lives
      story := ?story }
  case mentioned =>
    refine List.forall_mem_cons.mpr ⟨fun other mention => ?_, kept.mentioned⟩
    rw [← Option.some.inj mention]
    exact known
  case dismissed =>
    intro receiver member
    have member : Entry.rejected host receiver ∈ journal := by simpa using member
    rw [calls_cons_unheard (heard?_eq_none rfl (kept.rejected_apart held member hooked))]
    exact kept.dismissed receiver member
  case lives =>
    intro other found read
    rcases setSlot_read held read with ⟨rfl, rfl⟩ | ⟨different, read⟩
    · rw [calls_cons, same]
      simpa [heard?, played] using lives
    · have silent : hook ∉ hooks found.receiver :=
        fun too => different (kept.owner read held too hooked)
      rw [calls_cons_unheard (heard?_eq_none rfl silent)]
      exact kept.lives other found read
  case story =>
    refine (kept.story.note answers trivial ?_).setSlot held same
    · intro other receiver otherPart read otherPlayed ofTick removed
      -- A hook has one owner, so whoever plays the part is the receiver whose slot moves.
      rw [accepted_getElem?] at read
      obtain ⟨found, stored, rfl⟩ := Option.map_eq_some_iff.mp read
      obtain rfl := kept.owner stored held (mem_hooks_of_part? otherPlayed) hooked
      obtain rfl := Option.some.inj (stored.symm.trans held)
      obtain rfl := Option.some.inj (otherPlayed.symm.trans played)
      exact permitted ofTick removed

/-- A slot moves on without a call. -/
theorem Kept.move {waiting' : List Nat} {running' : Option Nat} {id : Nat} {slot : Slot}
    (kept : Kept name host waiting running registry hookCount journal)
    (held : registry.slots[id]? = some slot) (changed : Slot)
    (same : changed.receiver = slot.receiver)
    (apart : ∀ other ∈ waiting', other ∉ registry.registered ∧ other < registry.slots.length)
    (once : waiting'.Nodup) (shift : Shift id waiting waiting' running running')
    (stands : Stands (id ∈ registry.registered ∨ id ∈ waiting') running' id changed)
    (lives : Lives changed (calls slot.receiver journal)) :
    Kept name host waiting' running' (registry.setSlot id changed) hookCount journal := by
  have everyone : accepted (registry.setSlot id changed) = accepted registry :=
    accepted_setSlot held changed same
  have length := registry.setSlot_length id changed
  have keep : owned host (registry.setSlot id changed) journal = owned host registry journal := by
    rw [owned, everyone, owned]
  refine
    { unlocked := kept.unlocked
      orderly := by rw [everyone]; exact kept.orderly
      within := by rw [length]; exact kept.within
      apart := by rw [length]; exact apart
      once := once
      inside := by rw [length]; exact shift.inside held kept.inside
      managed := by rw [everyone]; exact kept.managed
      single := by rw [keep]; exact kept.single
      known := by rw [keep]; exact kept.known
      mentioned := kept.mentioned
      dismissed := kept.dismissed
      stands := kept.stands_setSlot held shift stands
      lives := ?lives
      story := kept.story.setSlot held same }
  case lives =>
    intro other found read
    rcases setSlot_read held read with ⟨rfl, rfl⟩ | ⟨different, read⟩
    · rw [same]
      exact lives
    · exact kept.lives other found read

/-- Receivers that are taken out wait to be retired. -/
theorem Kept.remove (kept : Kept name host waiting running registry hookCount journal)
    (closed : Closed registry journal) {fewer gone : List Nat} (once : gone.Nodup)
    (sublist : fewer.Sublist registry.registered)
    (split : ∀ id, id ∈ gone ↔ id ∈ registry.registered ∧ id ∉ fewer) :
    Kept name host (gone ++ waiting) running { registry with registered := fewer } hookCount
      (.listed host fewer :: journal) where
  unlocked := kept.unlocked
  orderly := kept.orderly.sublist sublist
  within id member := kept.within id (sublist.subset member)
  apart id member := by
    rcases List.mem_append.mp member with member | member
    · exact ⟨((split id).mp member).2, kept.within id ((split id).mp member).1⟩
    · have old := kept.apart id member
      exact ⟨fun registered => old.1 (sublist.subset registered), old.2⟩
  once := by
    refine List.nodup_append.mpr ⟨once, kept.once, ?_⟩
    rintro id member other waits rfl
    exact (kept.apart id waits).1 ((split id).mp member).1
  inside := kept.inside
  managed := kept.managed
  single := kept.single
  known := kept.known
  mentioned := kept.mentioned_aside rfl
  dismissed receiver member := by
    rw [calls_cons_unheard rfl]
    exact kept.dismissed receiver (by simpa using member)
  stands id slot held := by
    refine (kept.stands id slot held).shift ?_ Iff.rfl
    rw [List.mem_append, split]
    constructor
    · rintro (member | ⟨member, _⟩ | member)
      · exact Or.inl (sublist.subset member)
      · exact Or.inl member
      · exact Or.inr member
    · rintro (member | member)
      · by_cases stays : id ∈ fewer
        · exact Or.inl stays
        · exact Or.inr (Or.inl ⟨member, stays⟩)
      · exact Or.inr (Or.inr member)
  lives id slot held := by
    rw [calls_cons_unheard rfl]
    exact kept.lives id slot held
  story := kept.story.remove closed kept.orderly kept.within sublist

/-- Whoever departs is gone from the list. -/
theorem Kept.depart (kept : Kept name host waiting running registry hookCount journal)
    (closed : Closed registry journal) {ids : List Nat}
    (gone : ∀ id ∈ ids, id ∉ registry.registered ∧ id < registry.slots.length) :
    Kept name host waiting running registry hookCount (.removed host ids :: journal) where
  unlocked := kept.unlocked
  orderly := kept.orderly
  within := kept.within
  apart := kept.apart
  once := kept.once
  inside := kept.inside
  managed := kept.managed
  single := kept.single
  known := kept.known
  mentioned := kept.mentioned_aside rfl
  dismissed receiver member := by
    rw [calls_cons_unheard rfl]
    exact kept.dismissed receiver (by simpa using member)
  stands := kept.stands
  lives id slot held := by
    rw [calls_cons_unheard rfl]
    exact kept.lives id slot held
  story := kept.story.depart closed gone

/-- A newcomer brings hooks of its own, and none of them has been called. -/
structure Newcomer (name : String) (host : Nat) (registry : Registry) (hookCount : Nat)
    (journal : List Entry) (receiver : Receiver) : Prop where
  managed : Managed name receiver
  distinct : (hooks receiver).Nodup
  known : ∀ hook ∈ hooks receiver, hook < hookCount
  fresh : ∀ hook ∈ hooks receiver, hook ∉ owned host registry journal
  unmentioned : ∀ entry ∈ journal, ∀ hook, entry.hook? = some hook → hook ∉ hooks receiver

/-- A newcomer has not been heard of. -/
theorem Newcomer.unheard {receiver : Receiver}
    (newcomer : Newcomer name host registry hookCount journal receiver) :
    ∀ entry ∈ journal, heard? receiver entry = none := by
  intro entry member
  cases mentioned : entry.hook? with
  | none => exact heard?_of_hook?_none mentioned
  | some hook => exact heard?_eq_none mentioned (newcomer.unmentioned entry member hook mentioned)

/-- What a newcomer adds to the hooks of others keeps all hooks apart. -/
theorem Newcomer.single {receiver : Receiver} (newcomer : Newcomer name host registry hookCount journal receiver)
    {mine : List Nat} (perm : mine.Perm (hooks receiver ++ owned host registry journal))
    (single : (owned host registry journal).Nodup) : mine.Nodup := by
  refine perm.nodup_iff.mpr (List.nodup_append.mpr ⟨newcomer.distinct, single, ?_⟩)
  rintro hook member other of rfl
  exact newcomer.fresh hook member of

/-- With a newcomer all hooks are numbered still. -/
theorem Newcomer.all_known {receiver : Receiver} (newcomer : Newcomer name host registry hookCount journal receiver)
    {mine : List Nat} (perm : mine.Perm (hooks receiver ++ owned host registry journal))
    (known : ∀ hook ∈ owned host registry journal, hook < hookCount) : ∀ hook ∈ mine, hook < hookCount := by
  intro hook member
  rcases List.mem_append.mp (perm.mem_iff.mp member) with member | member
  · exact newcomer.known hook member
  · exact known hook member

section Rejection

variable {receiver : Receiver} {entries : List Entry}
  (finalizers : ∀ entry ∈ entries, ∃ hook label arguments,
    entry = .called hook label arguments ∧ part? receiver hook = some .finalize)

include finalizers

/-- Nobody else hears that a receiver is rejected. -/
theorem calls_rejected {other : Receiver} (apart : ∀ hook ∈ hooks other, hook ∉ hooks receiver) :
    calls other (entries ++ .rejected host receiver :: journal) = calls other journal := by
  have nothing : calls other entries = [] := by
    apply calls_eq_nil
    intro entry member
    obtain ⟨hook, label, arguments, rfl, played⟩ := finalizers entry member
    exact heard?_eq_none rfl fun too => apart hook too (mem_hooks_of_part? played)
  rw [calls_append, nothing, List.append_nil]
  exact calls_cons_unheard rfl

/-- A receiver that is turned away comes before those that were. -/
theorem rejected_rejected :
    rejected host (entries ++ .rejected host receiver :: journal) = receiver :: rejected host journal := by
  have nothing : rejected host entries = [] := by
    apply List.filterMap_eq_nil_iff.mpr
    intro entry member
    obtain ⟨hook, label, arguments, rfl, _⟩ := finalizers entry member
    rfl
  simp only [rejected, List.filterMap_append] at nothing ⊢
  simp [nothing]

/-- The finalizer belongs to nobody who was accepted. -/
theorem Story.dismiss (story : Story host registry journal) (closed : Closed registry journal)
    (newcomer : Newcomer name host registry hookCount journal receiver) :
    Story host registry (entries ++ .rejected host receiver :: journal) ∧
      Closed registry (entries ++ .rejected host receiver :: journal) := by
  have silence : ∀ (id : Nat) (other : Receiver) (hook : Nat), (accepted registry)[id]? = some other →
      hook ∈ hooks receiver → part? other hook = none := by
    intro id other hook held of
    refine part?_eq_none fun too => newcomer.fresh hook of ?_
    exact List.mem_flatMap.mpr ⟨other, List.mem_append_left _ (List.mem_of_getElem? held), too⟩
  induction entries with
  | nil => exact ⟨story.reject closed receiver, closed_cons (by simp)⟩
  | cons entry entries ih =>
      obtain ⟨story, closed⟩ := ih fun entry member => finalizers entry (List.mem_cons_of_mem _ member)
      obtain ⟨hook, label, arguments, rfl, played⟩ := finalizers entry List.mem_cons_self
      refine ⟨story.note (closed.answers _) trivial ?_, closed_cons (by simp)⟩
      intro id other part held otherPlayed
      rw [silence id other hook held (mem_hooks_of_part? played)] at otherPlayed
      cases otherPlayed

end Rejection

/-- A receiver is rejected and told so by the entries, which call its finalizer or are none. -/
theorem Kept.reject {receiver : Receiver}
    (kept : Kept name host waiting running registry hookCount journal)
    (closed : Closed registry journal)
    (newcomer : Newcomer name host registry hookCount journal receiver) (entries : List Entry)
    (finalizers : ∀ entry ∈ entries, ∃ hook label arguments,
      entry = .called hook label arguments ∧ part? receiver hook = some .finalize)
    (dismissed : calls receiver entries = dismissal receiver) :
    Kept name host waiting running registry hookCount (entries ++ .rejected host receiver :: journal) := by
  have chosen : rejected host (entries ++ .rejected host receiver :: journal) = receiver :: rejected host journal :=
    rejected_rejected finalizers
  have perm : (owned host registry (entries ++ .rejected host receiver :: journal)).Perm
      (hooks receiver ++ owned host registry journal) := by
    rw [owned, chosen, owned, ← List.flatMap_cons]
    exact List.perm_middle.flatMap_right _
  refine
    { unlocked := kept.unlocked
      orderly := kept.orderly
      within := kept.within
      apart := kept.apart
      once := kept.once
      inside := kept.inside
      managed := kept.managed
      single := newcomer.single perm kept.single
      known := newcomer.all_known perm kept.known
      mentioned := ?mentioned
      dismissed := ?dismissed
      stands := kept.stands
      lives := ?lives
      story := (kept.story.dismiss finalizers closed newcomer).1 }
  case mentioned =>
    refine List.forall_mem_append.mpr ⟨fun entry member hook mention => ?_, kept.mentioned_aside rfl⟩
    obtain ⟨called, label, arguments, rfl, played⟩ := finalizers entry member
    rw [← Option.some.inj mention]
    exact newcomer.known called (mem_hooks_of_part? played)
  case dismissed =>
    intro other member
    rw [← mem_rejected, chosen, List.mem_cons, mem_rejected] at member
    rcases member with rfl | member
    · rw [calls_append, calls_cons, calls_eq_nil newcomer.unheard, dismissed]
      rfl
    · rw [calls_rejected finalizers fun hook of too => newcomer.fresh hook too ?_]
      · exact kept.dismissed other member
      · exact List.mem_flatMap.mpr ⟨other, List.mem_append_right _ (mem_rejected.mpr member), of⟩
  case lives =>
    intro id slot held
    rw [calls_rejected finalizers fun hook of too => newcomer.fresh hook too (mem_owned held of)]
    exact kept.lives id slot held

/-- The numbers of the registered receivers go on in order, and a receiver that collides is not accepted. -/
theorem Orderly.enter {receiver : Receiver} (orderly : Orderly (accepted registry) registry.registered)
    (within : ∀ id ∈ registry.registered, id < registry.slots.length)
    (accepts : registry.accepts receiver = true) :
    Orderly (accepted registry ++ [receiver]) (registry.registered ++ [registry.slots.length]) := by
  have bounded : ∀ id ∈ registry.registered, id < (accepted registry).length := by
    rw [accepted_length]
    exact within
  have grown := orderly.grow bounded [receiver]
  have last : (accepted registry ++ [receiver])[registry.slots.length]? = some receiver := by
    rw [← accepted_length, List.getElem?_concat_length]
  have apart : ∀ id ∈ registry.registered, ∀ held,
      (accepted registry ++ [receiver])[id]? = some held → held.collides receiver = false := by
    intro id member held read
    rw [List.getElem?_append_left (bounded id member), accepted_getElem?] at read
    simp only [Schedule.Registry.accepts, Bool.not_eq_true', List.any_eq_false,
      Schedule.Registry.receivers, List.mem_filterMap] at accepts
    exact Bool.eq_false_iff.mpr (accepts held ⟨id, member, read⟩)
  refine ⟨?increasing, ?kinds, ?bindings⟩
  case increasing =>
    refine List.pairwise_append.mpr ⟨grown.increasing, List.pairwise_singleton _ _, ?_⟩
    intro id member other same
    rw [List.mem_singleton.mp same]
    exact within id member
  case kinds =>
    rw [List.filterMap_append, List.nodup_append]
    refine ⟨grown.kinds, by cases receiver <;> simp [last, Schedule.Receiver.kind?], ?_⟩
    intro kind member other same
    obtain ⟨id, registered, read⟩ := List.mem_filterMap.mp member
    obtain ⟨held, found, kindHeld⟩ := Option.bind_eq_some_iff.mp read
    have different := apart id registered held found
    simp only [List.filterMap_cons, List.filterMap_nil, last, Option.bind_some] at same
    cases held <;> cases receiver <;>
      simp_all [Schedule.Receiver.kind?, Schedule.Receiver.collides, Schedule.Receiver.binding?]
  case bindings =>
    rw [List.filterMap_append, List.nodup_append]
    refine ⟨grown.bindings, by cases receiver <;> simp [last, Schedule.Receiver.binding?], ?_⟩
    intro binding member other same
    obtain ⟨id, registered, read⟩ := List.mem_filterMap.mp member
    obtain ⟨held, found, bindingHeld⟩ := Option.bind_eq_some_iff.mp read
    have different := apart id registered held found
    simp only [List.filterMap_cons, List.filterMap_nil, last, Option.bind_some] at same
    cases held <;> cases receiver <;>
      simp_all [Schedule.Receiver.kind?, Schedule.Receiver.collides, Schedule.Receiver.binding?]

/-- The last slot is that of a receiver which remains and has not begun, and all others stand as they did. -/
theorem Kept.stands_add (kept : Kept name host waiting running registry hookCount journal) (receiver : Receiver)
    (id : Nat) (slot : Slot) (held : (registry.add receiver).1.slots[id]? = some slot) :
    Stands (id ∈ (registry.add receiver).1.registered ∨ id ∈ waiting) running id slot := by
  change Stands (id ∈ registry.registered ++ [registry.slots.length] ∨ id ∈ waiting) running id slot
  rcases concat_read held with held | ⟨rfl, rfl⟩
  · have bound := (List.getElem?_eq_some_iff.mp held).1
    refine (kept.stands id slot held).shift (or_congr ?_ Iff.rfl) Iff.rfl
    simp only [List.mem_append, List.mem_singleton, or_iff_left_iff_imp]
    omega
  · have idle : running ≠ some registry.slots.length := by
      intro runs
      exact Nat.lt_irrefl _ (kept.inside _ runs)
    exact ⟨fun _ => rfl, fun lost => absurd (Or.inl (by simp)) lost,
      by simp [idle], fun runs => absurd runs idle⟩

/-- A newcomer that does not collide is accepted once it has been attached. -/
theorem Kept.enter {receiver : Receiver} {before : List Entry}
    (kept : Kept name host waiting running registry hookCount journal)
    (closed : Closed registry journal)
    (newcomer : Newcomer name host registry hookCount before receiver)
    (same : owned host registry journal = owned host registry before)
    (unheard : Unheard receiver journal)
    (lives : Lives ⟨receiver, false, .live, false⟩ (calls receiver journal))
    (accepts : registry.accepts receiver = true) :
    Kept name host waiting running (registry.add receiver).1 hookCount
      (.accepted host registry.slots.length ::
        .listed host (registry.registered ++ [registry.slots.length]) :: journal) := by
  have everyone := accepted_add registry receiver
  have length : (registry.add receiver).1.slots.length = registry.slots.length + 1 := by
    simp [Schedule.Registry.add]
  have orderly := kept.orderly.enter kept.within accepts
  have silent : ∀ other, calls other (.accepted host registry.slots.length ::
      .listed host (registry.registered ++ [registry.slots.length]) :: journal) =
      calls other journal := fun other => (calls_cons_unheard rfl).trans (calls_cons_unheard rfl)
  have perm : (owned host (registry.add receiver).1 (.accepted host registry.slots.length ::
      .listed host (registry.registered ++ [registry.slots.length]) :: journal)).Perm
      (hooks receiver ++ owned host registry before) := by
    rw [← same, owned, everyone, owned, ← List.flatMap_cons, List.append_assoc]
    exact List.perm_middle.flatMap_right _
  refine
    { unlocked := kept.unlocked
      orderly := by rw [everyone]; exact orderly
      within := ?within
      apart := ?apart
      once := kept.once
      inside := fun id runs => Nat.lt_of_lt_of_le (kept.inside id runs) (by rw [length]; exact Nat.le_succ _)
      managed := ?managed
      single := newcomer.single perm (same ▸ kept.single)
      known := newcomer.all_known perm (same ▸ kept.known)
      mentioned := List.forall_mem_cons.mpr ⟨by simp [Entry.hook?], kept.mentioned_aside rfl⟩
      dismissed := ?dismissed
      stands := kept.stands_add receiver
      lives := ?lives
      story := kept.story.enter closed unheard orderly kept.within }
  case within =>
    rw [length]
    refine List.forall_mem_append.mpr ⟨fun id member => Nat.lt_succ_of_lt (kept.within id member), ?_⟩
    exact List.forall_mem_singleton.mpr (Nat.lt_succ_self _)
  case apart =>
    intro id member
    obtain ⟨out, bound⟩ := kept.apart id member
    refine ⟨?_, by omega⟩
    simp only [Schedule.Registry.add, List.mem_append, List.mem_singleton, not_or]
    exact ⟨out, by omega⟩
  case managed =>
    rw [everyone]
    exact List.forall_mem_append.mpr ⟨kept.managed, List.forall_mem_singleton.mpr newcomer.managed⟩
  case dismissed =>
    intro other member
    rw [silent]
    exact kept.dismissed other (by simpa using member)
  case lives =>
    intro id slot held
    rw [silent]
    rcases concat_read held with held | ⟨-, rfl⟩
    · exact kept.lives id slot held
    · exact lives

end Scheduler

end ScriptHost.Session
