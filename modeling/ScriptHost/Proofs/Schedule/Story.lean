/-
This file holds the part of the invariant of a registry that speaks of its past.
-/
import ScriptHost.Proofs.Schedule.Chronicle
import Mathlib.Data.List.Nodup
import Mathlib.Data.List.Pairwise

namespace ScriptHost.Session.Scheduler

/-- The journal explains which receivers a registry lists, and no tick calls a receiver that was removed,
apart from the update after a start that the removal overtook. -/
structure Story (host : Nat) (registry : Registry) (journal : List Entry) : Prop where
  listings : ∀ ids, Entry.listed host ids ∈ journal →
    Orderly (accepted registry) ids ∧ ∀ id ∈ ids, id < registry.slots.length
  current : listedAfter host [] journal.reverse = registry.registered
  entered : ∀ id, Entry.accepted host id ∈ journal ↔ id < registry.slots.length
  left : ∀ id, Removed host id journal → id ∉ registry.registered ∧ id < registry.slots.length
  quiet : ∀ later hook label arguments earlier id receiver part,
    journal = later ++ .called hook label arguments :: earlier →
    (accepted registry)[id]? = some receiver → part? receiver hook = some part →
    part.ofTick = true → Removed host id earlier →
    part = .update ∧ Overtaken host id receiver earlier
  resumed : ∀ later hook arguments earlier receiver,
    journal = later ++ .finished hook arguments .normal :: earlier →
    receiver ∈ accepted registry → part? receiver hook = some .start →
    later = [] ∨ ∃ rest update label given,
      part? receiver update = some .update ∧ later = rest ++ [.called update label given]

/-- The journal does not end with a start that ended well. -/
def Closed (registry : Registry) (journal : List Entry) : Prop :=
  ∀ hook arguments rest receiver, journal = .finished hook arguments .normal :: rest →
    receiver ∈ accepted registry → part? receiver hook ≠ some .start

/-- After a start that ended well, the entry is the call of the update. -/
def Answers (registry : Registry) (journal : List Entry) (entry : Entry) : Prop :=
  ∀ hook arguments rest receiver, journal = .finished hook arguments .normal :: rest →
    receiver ∈ accepted registry → part? receiver hook = some .start →
    ∃ update label given, part? receiver update = some .update ∧ entry = .called update label given

variable {host : Nat} {registry : Registry} {journal : List Entry} {entry : Entry}

/-- Behind a closed journal every entry is an answer. -/
theorem Closed.answers (closed : Closed registry journal) (entry : Entry) :
    Answers registry journal entry :=
  fun hook arguments rest receiver same member played =>
    absurd played (closed hook arguments rest receiver same member)

/-- Behind an entry that is no normal end the journal is closed. -/
theorem closed_cons (open' : ∀ hook arguments, entry ≠ .finished hook arguments .normal) :
    Closed registry (entry :: journal) :=
  fun hook arguments _ _ same => absurd (List.cons.inj same).1 (open' hook arguments)

/-- As many were accepted as there are slots. -/
theorem accepted_length (registry : Registry) :
    (accepted registry).length = registry.slots.length :=
  List.length_map _

/-- The receiver of a slot was accepted in its place. -/
theorem accepted_getElem? (registry : Registry) (id : Nat) :
    (accepted registry)[id]? = (registry.slots[id]?).map Schedule.Slot.receiver :=
  List.getElem?_map

/-- Setting a slot accepts nobody. -/
theorem accepted_setSlot {id : Nat} {slot : Slot} (held : registry.slots[id]? = some slot)
    (changed : Slot) (same : changed.receiver = slot.receiver) :
    accepted (registry.setSlot id changed) = accepted registry := by
  apply List.ext_getElem?
  intro index
  simp only [accepted_getElem?, Schedule.Registry.setSlot, List.getElem?_set]
  split
  · next equal =>
      subst equal
      have inside := (List.getElem?_eq_some_iff.mp held).1
      simp only [held, inside, if_true, Option.map_some, same]
  · rfl

/-- Setting a slot leaves the journal closed. -/
theorem Closed.setSlot {id : Nat} {slot : Slot} (closed : Closed registry journal)
    (held : registry.slots[id]? = some slot) (changed : Slot)
    (same : changed.receiver = slot.receiver) : Closed (registry.setSlot id changed) journal := by
  unfold Closed
  rw [accepted_setSlot held changed same]
  exact closed

/-- Fewer receivers are in order as well. -/
theorem Orderly.sublist {receivers : List Receiver} {ids fewer : List Nat}
    (orderly : Orderly receivers ids) (sublist : fewer.Sublist ids) : Orderly receivers fewer where
  increasing := orderly.increasing.sublist sublist
  kinds := orderly.kinds.sublist (sublist.filterMap _)
  bindings := orderly.bindings.sublist (sublist.filterMap _)

/-- Receivers that are accepted later do not disturb an earlier listing. -/
theorem Orderly.grow {receivers : List Receiver} {ids : List Nat} (orderly : Orderly receivers ids)
    (within : ∀ id ∈ ids, id < receivers.length) (more : List Receiver) :
    Orderly (receivers ++ more) ids := by
  have same {α : Type} (read : Receiver → Option α) :
      (ids.filterMap fun id => (receivers ++ more)[id]?.bind read) =
        ids.filterMap fun id => receivers[id]?.bind read := by
    apply List.filterMap_congr
    intro id member
    rw [List.getElem?_append_left (within id member)]
  exact ⟨orderly.increasing, by rw [same]; exact orderly.kinds, by rw [same]; exact orderly.bindings⟩

/-- An entry that removes nobody leaves the removed as they are. -/
theorem removed_cons {id : Nat} (different : ∀ ids, entry ≠ .removed host ids) :
    Removed host id (entry :: journal) ↔ Removed host id journal := by
  constructor
  · intro holds
    obtain ⟨ids, member, inside⟩ := holds
    rcases List.mem_cons.mp member with same | member
    · exact absurd same.symm (different ids)
    · exact ⟨ids, member, inside⟩
  · intro holds
    obtain ⟨ids, member, inside⟩ := holds
    exact ⟨ids, List.mem_cons_of_mem _ member, inside⟩

/-- An entry that lists nobody leaves the list as it is. -/
theorem listedAfter_reverse_cons (different : ∀ ids, entry ≠ .listed host ids) (listed : List Nat) :
    listedAfter host listed (entry :: journal).reverse = listedAfter host listed journal.reverse := by
  rw [List.reverse_cons, listedAfter_append, listedAfter_singleton different]

/-- The newest list is the one that counts. -/
theorem listedAfter_reverse_listed (listed ids : List Nat) :
    listedAfter host listed (.listed host ids :: journal).reverse = ids := by
  rw [List.reverse_cons, listedAfter_append]
  simp [listedAfter]

/-- A tick calls no receiver that was removed before, unless its start was overtaken. -/
def Permitted (host : Nat) (registry : Registry) (journal : List Entry) : Entry → Prop
  | .called hook _ _ => ∀ id receiver part, (accepted registry)[id]? = some receiver →
      part? receiver hook = some part → part.ofTick = true → Removed host id journal →
      part = .update ∧ Overtaken host id receiver journal
  | _ => True

/-- No tick calls a receiver that was removed, after one more entry as before. -/
theorem Story.quiet_cons (story : Story host registry journal)
    (permitted : Permitted host registry journal entry) :
    ∀ later hook label arguments earlier id receiver part,
      entry :: journal = later ++ .called hook label arguments :: earlier →
      (accepted registry)[id]? = some receiver → part? receiver hook = some part →
      part.ofTick = true → Removed host id earlier →
      part = .update ∧ Overtaken host id receiver earlier := by
  intro later hook label arguments earlier id receiver part split held played ofTick removed
  cases later with
  | nil =>
      obtain ⟨rfl, rfl⟩ := List.cons.inj split
      exact permitted id receiver part held played ofTick removed
  | cons first later =>
      exact story.quiet later hook label arguments earlier id receiver part
        (List.cons.inj split).2 held played ofTick removed

/-- What was started is updated next, after one more entry as before. -/
theorem Story.resumed_cons (story : Story host registry journal)
    (answers : Answers registry journal entry) :
    ∀ later hook arguments earlier receiver,
      entry :: journal = later ++ .finished hook arguments .normal :: earlier →
      receiver ∈ accepted registry → part? receiver hook = some .start →
      later = [] ∨ ∃ rest update label given,
        part? receiver update = some .update ∧ later = rest ++ [.called update label given] := by
  intro later hook arguments earlier receiver split member played
  cases later with
  | nil => exact Or.inl rfl
  | cons first later =>
      obtain ⟨first_eq, split⟩ := List.cons.inj split
      rcases story.resumed later hook arguments earlier receiver split member played with
        empty | ⟨rest, update, label, given, updates, same⟩
      · subst empty
        obtain ⟨update, label, given, updates, called⟩ :=
          answers hook arguments earlier receiver split member played
        refine Or.inr ⟨[], update, label, given, updates, ?_⟩
        rw [← first_eq, called, List.nil_append]
      · exact Or.inr ⟨first :: rest, update, label, given, updates, by rw [same]; rfl⟩

/-- An entry that tells of calls or reports leaves the listing alone. -/
def Plain (host : Nat) : Entry → Prop
  | .listed place _ | .accepted place _ | .removed place _ | .rejected place _ => place ≠ host
  | _ => True

/-- A plain entry that is permitted goes on with the story. -/
theorem Story.note (story : Story host registry journal) (answers : Answers registry journal entry)
    (plain : Plain host entry) (permitted : Permitted host registry journal entry) :
    Story host registry (entry :: journal) where
  listings ids member := by
    rcases List.mem_cons.mp member with same | member
    · subst same
      exact absurd rfl plain
    · exact story.listings ids member
  current := by
    rw [listedAfter_reverse_cons (by rintro ids rfl; exact plain rfl)]
    exact story.current
  entered id := by
    rw [List.mem_cons, story.entered]
    constructor
    · rintro (same | inside)
      · subst same
        exact absurd rfl plain
      · exact inside
    · exact Or.inr
  left id removed :=
    story.left id ((removed_cons (by rintro ids rfl; exact plain rfl)).mp removed)
  quiet := story.quiet_cons permitted
  resumed := story.resumed_cons answers

/-- The call of a hook only adds to the story, so that it can be left out again. -/
theorem Story.before {hook : Nat} {label : String} {arguments : Arguments}
    (story : Story host registry (.called hook label arguments :: journal)) :
    Story host registry journal where
  listings ids member := story.listings ids (List.mem_cons_of_mem _ member)
  current := by
    rw [← story.current, listedAfter_reverse_cons (by simp)]
  entered id := by
    rw [← story.entered, List.mem_cons]
    simp
  left id removed := story.left id ((removed_cons (by simp)).mpr removed)
  quiet later hook' label' arguments' earlier id receiver part split held played ofTick removed :=
    story.quiet (.called hook label arguments :: later) hook' label' arguments' earlier id receiver part
      (by rw [split]; rfl) held played ofTick removed
  resumed later hook' arguments' earlier receiver split member played := by
    rcases story.resumed (.called hook label arguments :: later) hook' arguments' earlier receiver
      (by rw [split]; rfl) member played with empty | ⟨rest, update, label', given, updates, same⟩
    · cases empty
    · cases rest with
      | nil =>
          rw [List.nil_append] at same
          exact Or.inl (List.cons.inj same).2
      | cons first rest =>
          exact Or.inr ⟨rest, update, label', given, updates, (List.cons.inj same).2⟩

/-- Receivers that are taken out are no longer listed. -/
theorem Story.remove (story : Story host registry journal) (closed : Closed registry journal)
    (orderly : Orderly (accepted registry) registry.registered)
    (within : ∀ id ∈ registry.registered, id < registry.slots.length) {fewer : List Nat}
    (sublist : fewer.Sublist registry.registered) :
    Story host { registry with registered := fewer } (.listed host fewer :: journal) where
  listings ids member := by
    rcases List.mem_cons.mp member with same | member
    · obtain ⟨_, rfl⟩ := Entry.listed.inj same
      exact ⟨orderly.sublist sublist, fun id member => within id (sublist.subset member)⟩
    · exact story.listings ids member
  current := listedAfter_reverse_listed [] fewer
  entered id := by
    rw [← story.entered, List.mem_cons]
    simp
  left id removed := by
    have old := story.left id ((removed_cons (by simp)).mp removed)
    exact ⟨fun member => old.1 (sublist.subset member), old.2⟩
  quiet := story.quiet_cons trivial
  resumed := story.resumed_cons (closed.answers _)

/-- A receiver that was not accepted yet has at most been attached. -/
def Unheard (receiver : Receiver) (journal : List Entry) : Prop :=
  ∀ entry ∈ journal, ∀ hook, entry.hook? = some hook →
    part? receiver hook = none ∨ part? receiver hook = some .attach

/-- An unheard receiver has heard of its attachment at most. -/
theorem Unheard.attach {receiver : Receiver} (unheard : Unheard receiver journal) {entry : Entry} {hook : Nat}
    {part : Part} (member : entry ∈ journal) (mentioned : entry.hook? = some hook)
    (played : part? receiver hook = some part) : part = .attach := by
  rcases unheard entry member hook mentioned with silent | attach
  · rw [silent] at played
    cases played
  · exact Option.some.inj (played.symm.trans attach)

/-- A new receiver is accepted last. -/
theorem accepted_add (registry : Registry) (receiver : Receiver) :
    accepted (registry.add receiver).1 = accepted registry ++ [receiver] := by
  simp [accepted, Schedule.Registry.add]

/-- What stands in a longer list stood there before, or it is the last. -/
theorem concat_read {Item : Type} {items : List Item} {last item : Item} {id : Nat}
    (read : (items ++ [last])[id]? = some item) : items[id]? = some item ∨ id = items.length ∧ item = last := by
  rcases Nat.lt_or_ge id items.length with old | new
  · rw [List.getElem?_append_left old] at read
    exact Or.inl read
  · rw [List.getElem?_append_right new, List.getElem?_singleton] at read
    split at read
    · exact Or.inr ⟨by omega, (Option.some.inj read).symm⟩
    · cases read

/-- The story goes on when a receiver has been accepted. -/
theorem Story.enter (story : Story host registry journal) (closed : Closed registry journal)
    {receiver : Receiver} (unheard : Unheard receiver journal)
    (orderly : Orderly (accepted registry ++ [receiver]) (registry.registered ++ [registry.slots.length]))
    (within : ∀ id ∈ registry.registered, id < registry.slots.length) :
    Story host (registry.add receiver).1 (.accepted host registry.slots.length ::
      .listed host (registry.registered ++ [registry.slots.length]) :: journal) where
  listings ids member := by
    rw [accepted_add]
    have length : (registry.add receiver).1.slots.length = registry.slots.length + 1 := by
      simp [Schedule.Registry.add]
    rw [length]
    simp only [List.mem_cons, reduceCtorEq, false_or] at member
    rcases member with same | member
    · obtain ⟨_, rfl⟩ := Entry.listed.inj same
      refine ⟨orderly, fun id member => ?_⟩
      rcases List.mem_append.mp member with member | member
      · exact Nat.lt_succ_of_lt (within id member)
      · rw [List.mem_singleton.mp member]
        exact Nat.lt_succ_self _
    · obtain ⟨old, inside⟩ := story.listings ids member
      exact ⟨old.grow (by rw [accepted_length]; exact inside) [receiver],
        fun id member => Nat.lt_succ_of_lt (inside id member)⟩
  current := by
    rw [listedAfter_reverse_cons (by simp), listedAfter_reverse_listed]
    rfl
  entered id := by
    have old := story.entered id
    simp only [List.mem_cons, Entry.accepted.injEq, true_and, reduceCtorEq, false_or, old,
      Schedule.Registry.add, List.length_append, List.length_singleton]
    omega
  left id removed := by
    have old := story.left id
      ((removed_cons (by simp)).mp ((removed_cons (by simp)).mp removed))
    have bound := old.2
    refine ⟨?_, by simp only [Schedule.Registry.add, List.length_append, List.length_singleton]; omega⟩
    simp only [Schedule.Registry.add, List.mem_append, List.mem_singleton, not_or]
    exact ⟨old.1, by omega⟩
  quiet later hook label arguments earlier id other part split held played ofTick removed := by
    rw [accepted_add] at held
    -- The two new entries call nobody, so the call stands further down.
    rcases later with _ | ⟨_, _ | ⟨_, later⟩⟩
    · simp at split
    · simp at split
    · simp only [List.cons_append, List.cons.injEq] at split
      rcases concat_read held with old | ⟨-, rfl⟩
      · exact story.quiet later hook label arguments earlier id other part split.2.2 old played ofTick removed
      · have member : Entry.called hook label arguments ∈ journal := by
          rw [split.2.2]
          simp
        obtain rfl := unheard.attach member rfl played
        cases ofTick
  resumed later hook arguments earlier other split member played := by
    rw [accepted_add] at member
    rcases later with _ | ⟨first, _ | ⟨second, later⟩⟩
    · exact Or.inl rfl
    · simp at split
    · simp only [List.cons_append, List.cons.injEq] at split
      rcases List.mem_append.mp member with member | member
      · rcases story.resumed later hook arguments earlier other split.2.2 member played with
          empty | ⟨rest, update, label, given, updates, same⟩
        · subst empty
          exact absurd played (closed hook arguments earlier other split.2.2 member)
        · exact Or.inr ⟨first :: second :: rest, update, label, given, updates, by rw [same]; rfl⟩
      · rw [List.mem_singleton.mp member] at played
        have member : Entry.finished hook arguments .normal ∈ journal := by
          rw [split.2.2]
          simp
        cases unheard.attach member rfl played

/-- A removal is written down when it is over. -/
theorem Story.depart (story : Story host registry journal) (closed : Closed registry journal)
    {ids : List Nat} (gone : ∀ id ∈ ids, id ∉ registry.registered ∧ id < registry.slots.length) :
    Story host registry (.removed host ids :: journal) where
  listings others member := story.listings others (by simpa using member)
  current := by
    rw [listedAfter_reverse_cons (by simp)]
    exact story.current
  entered id := by
    rw [← story.entered, List.mem_cons]
    simp
  left id removed := by
    obtain ⟨others, member, inside⟩ := removed
    rcases List.mem_cons.mp member with same | member
    · obtain ⟨_, rfl⟩ := Entry.removed.inj same
      exact gone id inside
    · exact story.left id ⟨others, member, inside⟩
  quiet := story.quiet_cons trivial
  resumed := story.resumed_cons (closed.answers _)

/-- A rejection changes nothing in the registry. -/
theorem Story.reject (story : Story host registry journal) (closed : Closed registry journal)
    (receiver : Receiver) : Story host registry (.rejected host receiver :: journal) where
  listings ids member := story.listings ids (by simpa using member)
  current := by
    rw [listedAfter_reverse_cons (by simp)]
    exact story.current
  entered id := by
    rw [← story.entered, List.mem_cons]
    simp
  left id removed := story.left id ((removed_cons (by simp)).mp removed)
  quiet := story.quiet_cons trivial
  resumed := story.resumed_cons (closed.answers _)

/-- The story knows the receivers and their listing, but not how far they are. -/
theorem Story.setSlot {id : Nat} {slot changed : Slot} (story : Story host registry journal)
    (held : registry.slots[id]? = some slot) (same : changed.receiver = slot.receiver) :
    Story host (registry.setSlot id changed) journal := by
  have everyone := accepted_setSlot held changed same
  have length := registry.setSlot_length id changed
  refine ⟨?_, story.current, ?_, ?_, ?_, ?_⟩
  · rw [everyone, length]
    exact story.listings
  · rw [length]
    exact story.entered
  · rw [length]
    exact story.left
  · rw [everyone]
    exact story.quiet
  · rw [everyone]
    exact story.resumed

end ScriptHost.Session.Scheduler
