/-
This file shows that the entities which a foreign engine lists are the first ones of one whole list, although the
world may change between the calls.
-/
import Mathlib.Control.Monad.Basic
import ScriptHost.Proofs.Foreign.Attempts

namespace ScriptHost.Foreign

/-- This is what a listing call comes upon: a failure, or all entities that are alive. -/
abbrev Census := Except Int (List Entity)

namespace Census

/-- The status counts all entities, and as many are written as there is room for. -/
def Answered (room : Nat) (reply : Reply) : Census → Prop
  | .error code => reply.status = code ∧ code < 0
  | .ok entities =>
      reply.status = entities.length ∧ entities.length ≤ 0x7fffffff ∧ reply.entities = entities.take room

variable {State : Type}

/-- Foreign code answers a listing call by what the call comes upon. -/
def Honoured (table : Table State) (census : State → Census) : Prop :=
  ∀ room state, room ≤ 0x7fffffff → (census state).Answered room (table (.allEntities room) state).1

/-- The entities are asked for again if there are more of them than there is room for, and more room is allowed. -/
def larger (cap room : Nat) : Census → Option Nat
  | .ok entities => if room < entities.length ∧ room < cap then some (min entities.length cap) else none
  | .error _ => none

def settle (cap : Nat) : Census → Except NativeError (List Entity)
  | .ok entities => .ok (entities.take cap)
  | .error code => .error (.engineCallFailed "get_all_entities" code)

def outgrown : NativeError :=
  growing "get_all_entities" "entity count kept growing"

/-- More room is needed exactly if there are more entities than room and the cap allows more. -/
theorem larger_eq_some {cap room more : Nat} {census : Census} :
    census.larger cap room = some more ↔
      ∃ entities, census = .ok entities ∧ room < entities.length ∧ room < cap ∧ more = min entities.length cap := by
  cases census with
  | error code => simp [larger]
  | ok entities => simp [larger, and_assoc, eq_comm]

/-- No more room is needed if all entities fit or the cap does. -/
theorem larger_eq_none {cap room : Nat} {census : Census} :
    census.larger cap room = none ↔ ∀ entities, census = .ok entities → entities.length ≤ room ∨ cap ≤ room := by
  cases census with
  | error code => simp [larger]
  | ok entities => simp [larger]; omega

def loop (cap : Nat) (census : State → Census) : Loop State (Except NativeError (List Entity)) where
  query := .allEntities
  larger state room := (census state).larger cap room
  settle state := (census state).settle cap
  giveUp := .error outgrown
  rises state room more short := by
    obtain ⟨entities, -, crowded, allowed, rfl⟩ := larger_eq_some.mp short
    exact Nat.lt_min.mpr ⟨crowded, allowed⟩

variable {table : Table State} {census : State → Census} {cap : Nat}

/-- No place of the buffer is left as it was. -/
theorem filled_take {entities : List Entity} {room : Nat} :
    filled ⟨0⟩ (min entities.length room) (entities.take room) = entities.take room := by
  have length : (entities.take room).length = min entities.length room := by rw [List.length_take, Nat.min_comm]
  rw [filled, ← length, List.take_length, Nat.sub_self, List.replicate_zero, List.append_nil]

/-- Reading entities is such a loop. -/
theorem readEntities_run (honoured : Honoured table census) (attempts : Nat) {room : Nat} (counted : room ≤ 0x7fffffff)
    (allowed : room ≤ cap) (state : State) :
    readEntities table cap attempts room state = (loop cap census).run table attempts room state := by
  induction attempts generalizing room state with
  | zero => rfl
  | succ attempts ih =>
      have answered := honoured room state counted
      have clamped : clamp room = room := Nat.min_eq_left counted
      have short : (loop cap census).larger state room = (census state).larger cap room := rfl
      have settled : (loop cap census).settle state = (census state).settle cap := rfl
      rw [readEntities, Loop.run, clamped, short, settled]
      cases present : census state with
      | error code =>
          rw [present] at answered
          obtain ⟨status, failed⟩ := answered
          simp only [larger, settle]
          rw [if_pos (by omega), status]
          rfl
      | ok entities =>
          rw [present] at answered
          obtain ⟨status, fits, written⟩ := answered
          have total : (table (.allEntities room) state).1.status.toNat = entities.length := by omega
          simp only [larger, settle]
          rw [if_neg (by omega), total, written]
          by_cases more : room < entities.length ∧ room < cap
          · rw [if_pos more, if_pos more]
            exact ih (by omega) (Nat.min_le_right _ _) _
          · have same : entities.take room = entities.take cap := by
              rcases Nat.lt_or_ge room cap with less | full
              · rw [List.take_of_length_le (by omega), List.take_of_length_le (by omega)]
              · rw [Nat.le_antisymm allowed full]
            rw [if_neg more, if_neg more, filled_take, same]
            rfl

/-- Listing entities starts the loop with the usual room. -/
theorem liveEntities_run (honoured : Honoured table census) (state : State) :
    liveEntities table cap state = (loop cap census).run table attempts (min cap entityRoom) state :=
  readEntities_run honoured attempts (Nat.le_trans (Nat.min_le_right _ _) (by decide)) (Nat.min_le_left _ _) state

/-- A table that keeps the contract does so while its calls are recorded. -/
theorem honoured_recorded (honoured : Honoured table census) : Honoured (recorded table) (census ∘ Prod.fst) :=
  fun room state counted => honoured room state.1 counted

/-- The room that is asked for is never more than the cap. -/
theorem grew_allowed {first room : Nat} {exchanges : List (Exchange State)}
    (grew : (loop cap census).Grew first exchanges room) (allowed : first ≤ cap) : room ≤ cap := by
  induction grew with
  | none => exact allowed
  | again asked short risen later ih =>
      obtain ⟨entities, -, -, -, rfl⟩ := larger_eq_some.mp short
      exact ih (Nat.min_le_right _ _)

/-- What has grown once is large enough for the same census. -/
theorem larger_larger {room more : Nat} {census : Census} (short : census.larger cap room = some more) :
    census.larger cap more = none := by
  obtain ⟨entities, rfl, -, -, rfl⟩ := larger_eq_some.mp short
  exact larger_eq_none.mpr fun other same => by cases same; omega

section Settling

variable {present : Census}

/-- A census gives its first entities, up to the cap. -/
theorem settle_entities (entities : List Entity) :
    present.settle cap = .ok entities ↔ ∃ all, present = .ok all ∧ entities = all.take cap := by
  cases present <;> simp [settle, eq_comm]

/-- A census fails with the code of its failure. -/
theorem settle_failing (code : Int) :
    present.settle cap = .error (.engineCallFailed "get_all_entities" code) ↔ present = .error code := by
  cases present <;> simp [settle]

/-- A census is never refused for its arguments. -/
theorem settle_argument (call reason : String) : present.settle cap ≠ .error (.invalidArgument call reason) := by
  cases present <;> simp [settle]

end Settling

section Telling

variable {present : Census} {room : Nat} {ended : Prop} {answer : Except NativeError (List Entity)}

/-- The answer is that to a call which came upon this with so much room. No call follows one that ended. -/
def Told (present : Census) (cap room : Nat) (ended : Prop) (answer : Except NativeError (List Entity)) : Prop :=
  (∀ entities, answer = .ok entities ↔
    ∃ all, present = .ok all ∧ (all.length ≤ room ∨ room = cap) ∧ entities = all.take cap) ∧
    (∀ code, answer = .error (.engineCallFailed "get_all_entities" code) ↔ present = .error code) ∧
    (answer = .error outgrown ↔ ended ∧ ∃ all, present = .ok all ∧ room < all.length ∧ room < cap)

/-- What fits is told as it stands. -/
theorem told_settled (allowed : room ≤ cap) (fits : present.larger cap room = none)
    (settled : answer = present.settle cap) : present.Told cap room ended answer := by
  have fits := larger_eq_none.mp fits
  refine ⟨fun entities => ?_, fun code => ?_, ?_⟩
  · rw [settled, settle_entities]
    refine exists_congr fun all => and_congr_right fun held => (and_iff_right ?_).symm
    have := fits all held
    omega
  · rw [settled, settle_failing]
  · rw [settled]
    refine ⟨fun given => absurd given (settle_argument _ _), ?_⟩
    rintro ⟨-, all, held, crowded, less⟩
    have := fits all held
    omega

/-- What has outgrown all attempts is told as an error. -/
theorem told_outgrown {more : Nat} (short : present.larger cap room = some more) (holds : ended)
    (given : answer = .error outgrown) : present.Told cap room ended answer := by
  obtain ⟨all, rfl, crowded, less, -⟩ := larger_eq_some.mp short
  rw [given]
  refine ⟨fun entities => ?_, fun code => ?_, ?_⟩
  · simp only [reduceCtorEq, Except.ok.injEq, exists_eq_left', false_iff, not_and]
    omega
  · simp only [outgrown, growing, Except.error.injEq, reduceCtorEq]
  · simp only [Except.ok.injEq, exists_eq_left', true_iff]
    exact ⟨holds, crowded, less⟩

end Telling

/-- The answer is the opening part of the list that the last call came upon, or the failure of that call. It is given
up only after four calls which all came upon more entities than there was room for, with more room each time. -/
theorem liveEntities_exact (honoured : Honoured table census) (cap : Nat) (state : State) :
    let run := liveEntities (recorded table) cap (state, [])
    let answer := run.1
    let calls := run.2.2
    liveEntities table cap state = (answer, run.2.1) ∧ calls.length ≤ 4 ∧
      (∃ earlier last room, calls = earlier ++ [last] ∧ (loop cap census).Grew (min cap 1024) earlier room ∧
        last.call = .allEntities room ∧ room ≤ cap ∧
        (∀ entities, answer = .ok entities ↔
          ∃ present, census last.state = .ok present ∧ (present.length ≤ room ∨ room = cap) ∧
            entities = present.take cap) ∧
        (∀ code, answer = .error (.engineCallFailed "get_all_entities" code) ↔ census last.state = .error code) ∧
        (answer = .error outgrown ↔
          calls.length = 4 ∧ ∃ present, census last.state = .ok present ∧ room < present.length ∧ room < cap)) ∧
      ∀ present, (∀ call ∈ calls, census call.state = present) → calls.length ≤ 2 ∧ answer = present.settle cap := by
  intro run answer calls
  have ran : run =
      ((loop cap census).through Prod.fst).run (recorded table) attempts (min cap entityRoom) (state, []) :=
    liveEntities_run (honoured_recorded honoured) (state, [])
  obtain ⟨same, tells⟩ := (loop cap census).run_tells table (by decide : attempts ≠ 0) (min cap entityRoom) state
  rw [← ran] at same tells
  have tells : (loop cap census).Tells attempts (min cap entityRoom) calls answer := tells
  refine ⟨(liveEntities_run honoured state).trans same, tells.length_le, ?_, fun present steady => ?_⟩
  · obtain ⟨earlier, last, room, whole, grew, asked, ending⟩ := tells.ends
    have allowed := grew_allowed grew (Nat.min_le_left _ _)
    refine ⟨earlier, last, room, whole, grew, asked, allowed, ?_⟩
    obtain ⟨fits, settled⟩ | ⟨more, short, all, given⟩ := ending
    · exact told_settled allowed fits settled
    · exact told_outgrown short all given
  · exact tells.steady (by decide) (fun _ _ => rfl) (fun _ => rfl) (fun _ _ => larger_larger) steady

/-- At first there are more entities than the first buffer holds, and all of them but one are gone at the next call. -/
def shrinkingWorld (calls : Nat) : List Entity :=
  if calls = 0 then List.replicate 1025 ⟨3⟩ else [⟨5⟩]

def shrinkingTable : Table Nat
  | .allEntities room, calls =>
      (⟨(shrinkingWorld calls).length, [], (shrinkingWorld calls).take room, 0⟩, calls + 1)
  | _, calls => (.ofStatus (-1), calls)

/-- While the world shrinks the list is that of the last call. -/
theorem liveEntities_exact_shrinking :
    let census := fun calls => Except.ok (shrinkingWorld calls)
    let run := liveEntities (recorded shrinkingTable) 4096 (0, [])
    Honoured shrinkingTable census ∧ run.1 = .ok [⟨5⟩] ∧ run.2.2.length = 2 ∧
      ∃ last ∈ run.2.2, ∃ present, census last.state = .ok present ∧ [⟨5⟩] = present.take 4096 := by
  intro census run
  have honoured : Honoured shrinkingTable census := by
    intro room calls counted
    have short : (shrinkingWorld calls).length ≤ 0x7fffffff := by
      unfold shrinkingWorld
      split
      · rw [List.length_replicate]; decide
      · decide
    exact ⟨rfl, short, rfl⟩
  have answered : run.1 = .ok [⟨5⟩] := by decide +kernel
  obtain ⟨-, -, ⟨earlier, last, room, whole, -, -, -, entities, -⟩, -⟩ := liveEntities_exact honoured 4096 0
  obtain ⟨present, held, -, same⟩ := (entities [⟨5⟩]).mp answered
  refine ⟨honoured, answered, by decide +kernel, last, ?_, present, held, same⟩
  rw [whole]
  exact List.mem_append_right earlier List.mem_cons_self

end Census

end ScriptHost.Foreign
