/-
This file says what a tick writes in the journal: which receivers it visits, and what their turns write.
-/
import ScriptHost.Proofs.Schedule.Chronicle
import Mathlib.Data.List.TakeWhile

namespace ScriptHost.Session

/-- The hook ended with an error or a panic. -/
def Entry.faulty : Entry → Bool
  | .finished _ _ ending => decide (ending ≠ .normal)
  | _ => false

namespace Scheduler

/-- These are the entries of the tick that one turn of a receiver writes, in their order. A start that does
not end well takes the place of the update. -/
inductive Turn (signal : Tick.Signal) : Receiver → Bool → List Entry → Prop
  | system (kind : Nat) (logic : SystemLogic) (started : Bool) (ending : Ending) :
      Turn signal (.system kind logic) started
        [.called logic.onTick.id logic.onTick.label (.signal signal),
          .finished logic.onTick.id (.signal signal) ending]
  | update (entity : Entity) (script : String) (attach start update dispose : Hooked)
      (ending : Ending) :
      Turn signal (.behaviour entity script (.hooked attach start update dispose)) true
        [.called update.id update.label (.turn entity script signal),
          .finished update.id (.turn entity script signal) ending]
  | failed (entity : Entity) (script : String) (attach start update dispose : Hooked)
      (ending : Ending) (fails : ending ≠ .normal) :
      Turn signal (.behaviour entity script (.hooked attach start update dispose)) false
        [.called start.id start.label (.turn entity script signal),
          .finished start.id (.turn entity script signal) ending]
  | first (entity : Entity) (script : String) (attach start update dispose : Hooked)
      (ending : Ending) :
      Turn signal (.behaviour entity script (.hooked attach start update dispose)) false
        [.called start.id start.label (.turn entity script signal),
          .finished start.id (.turn entity script signal) .normal,
          .called update.id update.label (.turn entity script signal),
          .finished update.id (.turn entity script signal) ending]

/-- A tick visits a receiver and writes these entries of its own meanwhile. -/
structure Visit where
  id : Nat
  entries : List Entry

def Visit.faulty (visit : Visit) : Bool :=
  visit.entries.any Entry.faulty

/-- The tick has come to the receiver with this number or to a later one. -/
def reaches (receivers : List Receiver) (id : Nat) : Entry → Bool
  | .called hook _ arguments =>
      arguments.ofTick && (receivers.drop id).any fun receiver => (hooks receiver).contains hook
  | _ => false

/-- A round over some numbers visits those that are still listed when it comes to them, and nobody else. -/
structure Round (host : Nat) (signal : Tick.Signal) (receivers : List Receiver) (slots : List Slot)
    (listed ids : List Nat) (trace : List Entry) (visits : List Visit) : Prop where
  order : (visits.map Visit.id).Sublist ids
  entries : trace.filter Entry.ofTick = visits.flatMap Visit.entries
  turns : ∀ visit ∈ visits, ∃ slot : Slot, slots[visit.id]? = some slot ∧
    Turn signal slot.receiver slot.started visit.entries
  visited : ∀ id ∈ ids, id ∈ visits.map Visit.id ↔
    id ∈ listedAfter host listed (trace.takeWhile fun entry => !reaches receivers id entry)

/-- Nobody is called and nothing is listed meanwhile. -/
def Still (host : Nat) (trace : List Entry) : Prop :=
  ∀ entry ∈ trace, entry.ofTick = false ∧ ∀ ids, entry ≠ .listed host ids

/-- Nothing happens in the trace before the turn of one of the receivers. -/
def Opens (host : Nat) (receivers : List Receiver) (ids : List Nat) (trace : List Entry) : Prop :=
  ∃ lead turns, trace = lead ++ turns ∧ Still host lead ∧
    ∀ first rest, turns = first :: rest → ∃ id ∈ ids, reaches receivers id first = true

/-- No hook belongs to two receivers. -/
def Separate (receivers : List Receiver) : Prop :=
  ∀ (first second : Nat) (one other : Receiver) (hook : Nat), receivers[first]? = some one →
    receivers[second]? = some other → hook ∈ hooks one → hook ∈ hooks other → first = second

variable {host : Nat} {signal : Tick.Signal} {receivers : List Receiver} {slots : List Slot}
  {listed ids : List Nat} {trace : List Entry} {visits : List Visit} {receiver : Receiver}
  {started : Bool} {entries : List Entry} {entry : Entry} {id : Nat}

/-- An entry reaches a place if it calls a hook of a receiver from there on during a tick. -/
theorem reaches_iff : reaches receivers id entry = true ↔
    ∃ hook label arguments index receiver, entry = .called hook label arguments ∧
      arguments.ofTick = true ∧ id ≤ index ∧ receivers[index]? = some receiver ∧
      hook ∈ hooks receiver := by
  cases entry with
  | called hook label arguments =>
      simp only [reaches, Bool.and_eq_true, List.any_eq_true, List.contains_iff_mem,
        Entry.called.injEq]
      constructor
      · intro holds
        obtain ⟨ofTick, receiver, member, owns⟩ := holds
        obtain ⟨offset, read⟩ := List.mem_iff_getElem?.mp member
        rw [List.getElem?_drop] at read
        exact ⟨hook, label, arguments, id + offset, receiver, ⟨rfl, rfl, rfl⟩, ofTick,
          Nat.le_add_right _ _, read, owns⟩
      · intro holds
        obtain ⟨_, _, _, index, receiver, ⟨rfl, rfl, rfl⟩, ofTick, later, read, owns⟩ := holds
        refine ⟨ofTick, receiver, List.mem_iff_getElem?.mpr ⟨index - id, ?_⟩, owns⟩
        rw [List.getElem?_drop, Nat.add_sub_cancel' later]
        exact read
  | _ => simp [reaches]

/-- What is reached is called by a tick. -/
theorem reaches_ofTick (reached : reaches receivers id entry = true) : entry.ofTick = true := by
  obtain ⟨hook, label, arguments, index, receiver, rfl, ofTick, -⟩ := reaches_iff.mp reached
  exact ofTick

/-- What a later place is reached by reaches an earlier one. -/
theorem reaches_earlier {earlier : Nat} (before : earlier ≤ id)
    (reached : reaches receivers id entry = true) : reaches receivers earlier entry = true := by
  obtain ⟨hook, label, arguments, index, receiver, same, ofTick, later, read, owns⟩ :=
    reaches_iff.mp reached
  exact reaches_iff.mpr
    ⟨hook, label, arguments, index, receiver, same, ofTick, Nat.le_trans before later, read, owns⟩

/-- A turn calls hooks of its own receiver. -/
theorem Turn.owned (turn : Turn signal receiver started entries) {hook : Nat} {label : String}
    {arguments : Arguments} (member : .called hook label arguments ∈ entries) :
    hook ∈ hooks receiver := by
  cases turn <;> simp_all only [List.mem_cons, Entry.called.injEq, reduceCtorEq, List.not_mem_nil,
    or_false, false_or, hooks, parts, List.map_cons, List.map_nil, true_or, or_true]
  case first =>
    rcases member with ⟨same, -⟩ | ⟨same, -⟩
    · exact Or.inr (Or.inl same)
    · exact Or.inr (Or.inr (Or.inl same))

/-- A turn opens with a call. -/
theorem Turn.opens (turn : Turn signal receiver started entries) :
    ∃ hook label arguments rest, entries = .called hook label arguments :: rest ∧
      arguments.ofTick = true := by
  cases turn <;> exact ⟨_, _, _, _, rfl, rfl⟩

/-- Where nothing moves the list stays. -/
theorem Still.listing (still : Still host trace) (listed : List Nat) :
    listedAfter host listed trace = listed :=
  listedAfter_unlisted (fun entry member => (still entry member).2) listed

/-- Where nothing moves nobody is reached. -/
theorem Still.unreached (still : Still host trace) :
    ∀ entry ∈ trace, (!reaches receivers id entry) = true := by
  intro entry member
  rw [Bool.not_eq_true', Bool.eq_false_iff]
  intro reached
  have ofTick := reaches_ofTick reached
  rw [(still entry member).1] at ofTick
  cases ofTick

/-- Where nothing moves no tick calls anybody. -/
theorem Still.filter (still : Still host trace) : trace.filter Entry.ofTick = [] := by
  rw [List.filter_eq_nil_iff]
  intro entry member
  rw [(still entry member).1]
  exact Bool.false_ne_true

/-- A round over nobody writes nothing. -/
theorem round_nil : Round host signal receivers slots listed [] [] [] :=
  ⟨List.Sublist.slnil, rfl, by simp, by simp⟩

/-- A receiver that is no longer listed is passed over. -/
theorem Round.skip (round : Round host signal receivers slots listed ids trace visits)
    (opens : Opens host receivers ids trace) (lost : id ∉ listed) (later : ∀ other ∈ ids, id < other) :
    Round host signal receivers slots listed (id :: ids) trace visits where
  order := round.order.cons id
  entries := round.entries
  turns := round.turns
  visited other member := by
    rcases List.mem_cons.mp member with rfl | member
    · have absent : other ∉ visits.map Visit.id := fun visited =>
        Nat.lt_irrefl _ (later other (round.order.subset visited))
      obtain ⟨lead, turns, rfl, still, opens⟩ := opens
      have nothing : (turns.takeWhile fun entry => !reaches receivers other entry) = [] := by
        cases turns with
        | nil => rfl
        | cons first rest =>
            obtain ⟨reached, inside, opening⟩ := opens first rest rfl
            have earlier := reaches_earlier (Nat.le_of_lt (later reached inside)) opening
            rw [List.takeWhile_cons_of_neg (by simp [earlier])]
      rw [List.takeWhile_append_of_pos still.unreached, nothing, List.append_nil, still.listing]
      exact iff_of_false absent lost
    · exact round.visited other member

/-- The first call of a turn reaches the place of its receiver. -/
theorem Turn.reaches {slot : Slot} {first : Entry} {rest : List Entry}
    (turn : Turn signal slot.receiver slot.started (first :: rest))
    (held : receivers[id]? = some slot.receiver) : Scheduler.reaches receivers id first = true := by
  obtain ⟨hook, label, arguments, more, same, ofTick⟩ := turn.opens
  obtain ⟨rfl, -⟩ := List.cons.inj same
  exact reaches_iff.mpr ⟨hook, label, arguments, id, slot.receiver, rfl, ofTick, Nat.le_refl _, held,
    turn.owned List.mem_cons_self⟩

/-- A receiver that is still listed has its turn. -/
theorem Round.visit {slot : Slot} {first : Entry} {segment : List Entry}
    (round : Round host signal receivers slots
      (listedAfter host listed (first :: segment)) ids trace visits)
    (separate : Separate receivers) (held : receivers[id]? = some slot.receiver)
    (stored : slots[id]? = some slot) (present : id ∈ listed) (later : ∀ other ∈ ids, id < other)
    (begins : first.ofTick = true)
    (turn : Turn signal slot.receiver slot.started (first :: segment.filter Entry.ofTick)) :
    Round host signal receivers slots listed (id :: ids) (first :: segment ++ trace)
      (⟨id, first :: segment.filter Entry.ofTick⟩ :: visits) := by
  have reached := turn.reaches held
  have unreached : ∀ other ∈ ids, ∀ entry ∈ first :: segment,
      (!reaches receivers other entry) = true := by
    intro other member entry inside
    rw [Bool.not_eq_true', Bool.eq_false_iff]
    intro reached
    have kept := List.mem_filter.mpr ⟨inside, reaches_ofTick reached⟩
    rw [List.filter_cons_of_pos begins] at kept
    obtain ⟨hook, label, arguments, index, receiver, rfl, -, after, read, owns⟩ :=
      reaches_iff.mp reached
    have same := separate id index slot.receiver receiver hook held read (turn.owned kept) owns
    have before := later other member
    omega
  refine ⟨round.order.cons_cons id, ?entries, ?turns, ?visited⟩
  case entries =>
    rw [List.filter_append, round.entries, List.flatMap_cons, List.filter_cons_of_pos begins]
  case turns =>
    intro visit member
    rcases List.mem_cons.mp member with rfl | member
    · exact ⟨slot, stored, turn⟩
    · exact round.turns visit member
  case visited =>
    intro other member
    rcases List.mem_cons.mp member with rfl | member
    · rw [List.cons_append, List.takeWhile_cons_of_neg (by simp [reached]), listedAfter_nil]
      exact iff_of_true (by simp) present
    · rw [List.takeWhile_append_of_pos (unreached other member), listedAfter_append,
        ← round.visited other member, List.map_cons, List.mem_cons]
      have different : other ≠ id := Nat.ne_of_gt (later other member)
      exact or_iff_right different

/-- What a round says of the slots, it says of earlier slots of the same receivers. -/
theorem Round.earlier {former : List Slot}
    (round : Round host signal receivers slots listed ids trace visits)
    (same : ∀ id ∈ ids, ∀ slot : Slot, slots[id]? = some slot → ∃ first : Slot,
      former[id]? = some first ∧ slot.receiver = first.receiver ∧ slot.started = first.started) :
    Round host signal receivers former listed ids trace visits where
  order := round.order
  entries := round.entries
  turns visit member := by
    obtain ⟨slot, stored, turn⟩ := round.turns visit member
    have inside : visit.id ∈ ids := round.order.subset (List.mem_map_of_mem member)
    obtain ⟨first, found, receiver, started⟩ := same visit.id inside slot stored
    rw [receiver, started] at turn
    exact ⟨first, found, turn⟩
  visited := round.visited

/-- A round may be surrounded by entries that tell of other things. -/
theorem Round.frame {first last : List Entry}
    (round : Round host signal receivers slots listed ids trace visits)
    (begins : Still host first) (ends : Still host last) :
    Round host signal receivers slots listed ids (first ++ trace ++ last) visits where
  order := round.order
  entries := by
    rw [List.filter_append, List.filter_append, begins.filter, ends.filter, List.append_nil,
      List.nil_append, round.entries]
  turns := round.turns
  visited id member := by
    rw [List.append_assoc, List.takeWhile_append_of_pos begins.unreached, listedAfter_append,
      begins.listing, round.visited id member, List.takeWhile_append]
    split
    · next whole =>
        have all := (List.takeWhile_prefix _).eq_of_length whole
        rw [all, List.takeWhile_eq_self_iff.mpr ends.unreached, listedAfter_append, ends.listing]
    · rfl

end Scheduler

end ScriptHost.Session
