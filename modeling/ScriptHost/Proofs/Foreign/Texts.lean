/-
This file shows that a text which is read from a foreign engine is one whole value, although the value may be
replaced between the calls.
-/
import ScriptHost.Proofs.Foreign.Attempts
import ScriptHost.Proofs.Text.Decoding

namespace ScriptHost.Foreign

open Text (Utf8.encode Utf8.decode? Utf8.decode?_eq_some)

/-- These calls read a text. -/
inductive Getter where
  | component
  | scriptData
  deriving DecidableEq

/-- This is what a getter comes upon under its key. -/
inductive Finding where
  | absent
  | failing (code : Int)
  | held (value : List UInt8)
  deriving DecidableEq

/-- The status is the length of the whole value. The buffer takes the value and a zero, or it is too small and holds
anything. Value and zero together can be counted with 31 bits. -/
def Finding.Answered (size : Nat) (reply : Reply) : Finding → Prop
  | .absent => reply.status = -1
  | .failing code => reply.status = code ∧ code < -1
  | .held value =>
      reply.status = value.length ∧ value.length < 0x7fffffff ∧ reply.bytes.length ≤ size ∧
        (value.length < size → value <+: reply.bytes)

namespace Getter

def call : Getter → Entity → String → Nat → Call
  | .component => .component
  | .scriptData => .scriptData

def name : Getter → String
  | .component => "get_component_json"
  | .scriptData => "get_script_data"

def read {State : Type} (table : Table State) : Getter → Entity → String → State →
    Except NativeError (Option String) × State
  | .component => Foreign.component table
  | .scriptData => Foreign.scriptData table

variable {State : Type}

/-- Foreign code answers a getter by what the getter comes upon. -/
def Honours (getter : Getter) (table : Table State) (entity : Entity) (key : String) (found : State → Finding) : Prop :=
  ∀ size state, size ≤ 0x7fffffff → (found state).Answered size (table (getter.call entity key size) state).1

def outgrown (getter : Getter) (key : String) : NativeError :=
  growing getter.name s!"'{key}' kept growing while being read"

/-- A value that does not leave a place for the zero is read again. -/
def larger (room : Nat) : Finding → Option Nat
  | .held value => if room ≤ value.length then some (value.length + 1) else none
  | _ => none

def settle (getter : Getter) (entity : Entity) (key : String) : Finding → Except NativeError (Option String)
  | .absent => .ok none
  | .failing code => .error (.callFailed getter.name entity key code)
  | .held value =>
      match Utf8.decode? value with
      | some text => .ok (some text)
      | none => .error (.invalidUtf8 entity key)

/-- More room is needed exactly if a held value leaves none for its end. -/
theorem larger_eq_some {room more : Nat} {finding : Finding} :
    larger room finding = some more ↔
      ∃ value, finding = .held value ∧ room ≤ value.length ∧ more = value.length + 1 := by
  cases finding with
  | absent => simp [larger]
  | failing code => simp [larger]
  | held value => simp [larger, eq_comm]

/-- No more room is needed if every held value leaves some for its end. -/
theorem larger_eq_none {room : Nat} {finding : Finding} :
    larger room finding = none ↔ ∀ value, finding = .held value → value.length < room := by
  cases finding with
  | absent => simp [larger]
  | failing code => simp [larger]
  | held value => simp [larger]

def loop (getter : Getter) (entity : Entity) (key : String) (found : State → Finding) :
    Loop State (Except NativeError (Option String)) where
  query := getter.call entity key
  larger state room := larger room (found state)
  settle state := getter.settle entity key (found state)
  giveUp := .error (getter.outgrown key)
  rises state room more short := by
    obtain ⟨value, -, full, rfl⟩ := larger_eq_some.mp short
    exact Nat.lt_succ_of_le full

variable {getter : Getter} {table : Table State} {entity : Entity} {key : String} {found : State → Finding}

/-- Sizes that can be counted are not clamped. -/
theorem clamp_eq {size : Nat} (counted : size ≤ 0x7fffffff) : clamp size = size :=
  Nat.min_eq_left counted

/-- The value is read from the front of the buffer. -/
theorem filled_eq {value bytes : List UInt8} (written : value <+: bytes) : filled 0 value.length bytes = value := by
  obtain ⟨rest, rfl⟩ := written
  simp [filled]

/-- Reading a text is such a loop. -/
theorem readText_run (honours : getter.Honours table entity key found) (attempts : Nat) {room : Nat}
    (counted : room ≤ 0x7fffffff) (state : State) :
    readText table getter.name entity key (getter.call entity key) attempts room state =
      (getter.loop entity key found).run table attempts room state := by
  induction attempts generalizing room state with
  | zero => rfl
  | succ attempts ih =>
      have answered := honours room state counted
      have short : (getter.loop entity key found).larger state room = larger room (found state) := rfl
      have settled : (getter.loop entity key found).settle state = getter.settle entity key (found state) := rfl
      rw [readText, Loop.run, clamp_eq counted, short, settled]
      cases finding : found state with
      | absent =>
          rw [finding, Finding.Answered] at answered
          simp only [larger, settle]
          rw [if_pos answered]
          rfl
      | failing code =>
          rw [finding] at answered
          obtain ⟨status, failed⟩ := answered
          simp only [larger, settle]
          rw [if_neg (by omega), if_pos (by omega), status]
          rfl
      | held value =>
          rw [finding] at answered
          obtain ⟨status, fits, -, written⟩ := answered
          have length : (table (getter.call entity key room) state).1.status.toNat = value.length := by omega
          simp only [larger, settle]
          rw [if_neg (by omega), if_neg (by omega), length]
          by_cases full : room ≤ value.length
          · rw [if_pos full, if_pos full]
            exact ih (by omega) _
          · rw [if_neg full, if_neg full, filled_eq (written (Nat.lt_of_not_le full))]
            cases Utf8.decode? value <;> rfl

/-- A text without zeros may be asked for. -/
theorem checkText_eq {request text : String} (clean : Char.ofNat 0 ∉ text.toList) :
    checkText request text = .ok () := by
  refine if_neg fun zero => clean ?_
  obtain ⟨value, among, isZero⟩ := List.any_eq_true.mp zero
  rw [← Char.ofNat_toNat value, beq_iff_eq.mp isZero] at among
  exact among

/-- A getter starts the loop with the usual room. -/
theorem read_run (honours : getter.Honours table entity key found) (clean : Char.ofNat 0 ∉ key.toList) (state : State) :
    getter.read table entity key state = (getter.loop entity key found).run table attempts textRoom state := by
  rw [← readText_run honours attempts (by decide) state]
  cases getter with
  | component =>
      rw [read, Foreign.component, checkText_eq clean]
      rfl
  | scriptData =>
      rw [read, Foreign.scriptData, checkText_eq clean]
      rfl

/-- A table that keeps the contract does so while its calls are recorded. -/
theorem honours_recorded (honours : getter.Honours table entity key found) :
    getter.Honours (recorded table) entity key (found ∘ Prod.fst) :=
  fun size state counted => honours size state.1 counted

/-- A value that stays the same fits as soon as there is room for it. -/
theorem larger_larger {room more : Nat} {finding : Finding} (short : larger room finding = some more) :
    larger more finding = none := by
  obtain ⟨value, rfl, -, rfl⟩ := larger_eq_some.mp short
  exact if_neg (Nat.not_succ_le_self value.length)

section Settling

variable {finding : Finding}

/-- A text is given exactly if its encoding is held. -/
theorem settle_text (text : String) :
    getter.settle entity key finding = .ok (some text) ↔ finding = .held (Utf8.encode text) := by
  cases finding with
  | absent => simp [settle]
  | failing code => simp [settle]
  | held value =>
      rw [settle, Finding.held.injEq, ← Utf8.decode?_eq_some]
      cases Utf8.decode? value <;> simp

/-- A value that encodes no text is told as such. -/
theorem settle_damaged :
    getter.settle entity key finding = .error (.invalidUtf8 entity key) ↔
      ∃ value, finding = .held value ∧ ∀ text, value ≠ Utf8.encode text := by
  cases finding with
  | absent => simp [settle]
  | failing code => simp [settle]
  | held value =>
      simp only [settle, Finding.held.injEq, exists_eq_left', ne_eq, ← Utf8.decode?_eq_some]
      cases Utf8.decode? value <;> simp

/-- Nothing is given exactly if nothing is there. -/
theorem settle_absent : getter.settle entity key finding = .ok none ↔ finding = .absent := by
  cases finding with
  | absent => simp [settle]
  | failing code => simp [settle]
  | held value =>
      rw [settle]
      cases Utf8.decode? value <;> simp

/-- A failure is told with its code. -/
theorem settle_failing (code : Int) :
    getter.settle entity key finding = .error (.callFailed getter.name entity key code) ↔ finding = .failing code := by
  cases finding with
  | absent => simp [settle]
  | failing other => simp [settle]
  | held value =>
      rw [settle]
      cases Utf8.decode? value <;> simp

/-- A finding is never refused for its arguments. -/
theorem settle_argument (call reason : String) :
    getter.settle entity key finding ≠ .error (.invalidArgument call reason) := by
  cases finding with
  | absent => simp [settle]
  | failing code => simp [settle]
  | held value =>
      rw [settle]
      cases Utf8.decode? value <;> simp

end Settling

section Telling

variable {finding : Finding} {room : Nat} {ended : Prop} {answer : Except NativeError (Option String)}

/-- The answer is that to a call which came upon this with so much room. No call follows one that ended. -/
def Told (getter : Getter) (entity : Entity) (key : String) (finding : Finding) (room : Nat) (ended : Prop)
    (answer : Except NativeError (Option String)) : Prop :=
  (∀ text, answer = .ok (some text) ↔ finding = .held (Utf8.encode text) ∧ (Utf8.encode text).length < room) ∧
    (answer = .error (.invalidUtf8 entity key) ↔
      ∃ value, finding = .held value ∧ value.length < room ∧ ∀ text, value ≠ Utf8.encode text) ∧
    (answer = .ok none ↔ finding = .absent) ∧
    (∀ code, answer = .error (.callFailed getter.name entity key code) ↔ finding = .failing code) ∧
    (answer = .error (getter.outgrown key) ↔ ended ∧ ∃ value, finding = .held value ∧ room ≤ value.length)

/-- What fits is told as it stands. -/
theorem told_settled (fits : larger room finding = none) (settled : answer = getter.settle entity key finding) :
    getter.Told entity key finding room ended answer := by
  have fits := larger_eq_none.mp fits
  refine ⟨fun text => ?_, ?_, ?_, fun code => ?_, ?_⟩
  · rw [settled, settle_text, iff_self_and]
    exact fits _
  · rw [settled, settle_damaged]
    exact exists_congr fun value => and_congr_right fun held => (and_iff_right (fits value held)).symm
  · rw [settled, settle_absent]
  · rw [settled, settle_failing]
  · rw [settled]
    refine ⟨fun given => absurd given (settle_argument _ _), ?_⟩
    rintro ⟨-, value, held, full⟩
    exact absurd (fits value held) (Nat.not_lt_of_le full)

/-- What has outgrown all attempts is told as an error. -/
theorem told_outgrown {more : Nat} (short : larger room finding = some more) (holds : ended)
    (given : answer = .error (getter.outgrown key)) : getter.Told entity key finding room ended answer := by
  obtain ⟨value, rfl, full, -⟩ := larger_eq_some.mp short
  rw [given]
  refine ⟨fun text => ?_, ?_, ?_, fun code => ?_, ?_⟩
  · simp only [reduceCtorEq, Finding.held.injEq, false_iff, not_and]
    rintro rfl
    exact Nat.not_lt_of_le full
  · simp only [outgrown, growing, Except.error.injEq, reduceCtorEq, Finding.held.injEq, exists_eq_left',
      false_iff, not_and]
    exact fun fits => absurd fits (Nat.not_lt_of_le full)
  · simp only [reduceCtorEq]
  · simp only [outgrown, growing, Except.error.injEq, reduceCtorEq]
  · simp only [Finding.held.injEq, exists_eq_left', true_iff]
    exact ⟨holds, full⟩

end Telling

/-- The answer tells what the last call came upon, as a whole. It is given up only after four calls that came upon
values which were at least as long as the buffers, and one change of the buffer is enough for a value that stays. -/
theorem read_whole (honours : getter.Honours table entity key found) (clean : Char.ofNat 0 ∉ key.toList)
    (state : State) :
    let run := getter.read (recorded table) entity key (state, [])
    let answer := run.1
    let reads := run.2.2
    getter.read table entity key state = (answer, run.2.1) ∧ reads.length ≤ 4 ∧
      (∃ earlier last room, reads = earlier ++ [last] ∧ (getter.loop entity key found).Grew 256 earlier room ∧
        last.call = getter.call entity key room ∧
        (∀ text, answer = .ok (some text) ↔
          found last.state = .held (Utf8.encode text) ∧ (Utf8.encode text).length < room) ∧
        (answer = .error (.invalidUtf8 entity key) ↔
          ∃ value, found last.state = .held value ∧ value.length < room ∧ ∀ text, value ≠ Utf8.encode text) ∧
        (answer = .ok none ↔ found last.state = .absent) ∧
        (∀ code, answer = .error (.callFailed getter.name entity key code) ↔ found last.state = .failing code) ∧
        (answer = .error (getter.outgrown key) ↔
          reads.length = 4 ∧ ∃ value, found last.state = .held value ∧ room ≤ value.length)) ∧
      ∀ finding, (∀ read ∈ reads, found read.state = finding) →
        reads.length ≤ 2 ∧ answer = getter.settle entity key finding := by
  intro run answer reads
  have ran : run =
      ((getter.loop entity key found).through Prod.fst).run (recorded table) attempts textRoom (state, []) :=
    read_run (honours_recorded honours) clean (state, [])
  -- The loop is run over the recorded calls, which changes nothing but the record.
  obtain ⟨same, tells⟩ := (getter.loop entity key found).run_tells table (by decide : attempts ≠ 0) textRoom state
  rw [← ran] at same tells
  have tells : (getter.loop entity key found).Tells attempts textRoom reads answer := tells
  refine ⟨(read_run honours clean state).trans same, tells.length_le, ?_, fun finding steady => ?_⟩
  · obtain ⟨earlier, last, room, whole, grew, asked, ending⟩ := tells.ends
    refine ⟨earlier, last, room, whole, grew, asked, ?_⟩
    obtain ⟨fits, settled⟩ | ⟨more, short, all, given⟩ := ending
    · exact told_settled fits settled
    · exact told_outgrown short all given
  · exact tells.steady (by decide) (fun _ _ => rfl) (fun _ => rfl) (fun _ _ => larger_larger) steady

/-- The value fills the first buffer, then it grows past the second one, and it is short when the third call is made. -/
def shiftingValue (calls : Nat) : List UInt8 :=
  if calls = 0 then List.replicate 256 120 else if calls = 1 then List.replicate 300 121 else [100, 195, 182, 114]

/-- As much of the value and its zero is written as the buffer takes. -/
def shiftingTable : Table Nat
  | .scriptData _ _ size, calls =>
      (⟨(shiftingValue calls).length, (shiftingValue calls ++ [0]).take size, [], 0⟩, calls + 1)
  | _, calls => (.ofStatus (-1), calls)

/-- A value that was replaced between the calls is read as the later one. -/
theorem read_whole_shifting :
    let found := fun calls => Finding.held (shiftingValue calls)
    let run := scriptData.read (recorded shiftingTable) ⟨7⟩ "notes" (0, [])
    scriptData.Honours shiftingTable ⟨7⟩ "notes" found ∧ Char.ofNat 0 ∉ "notes".toList ∧
      run.1 = .ok (some "dör") ∧ run.2.2.length = 3 ∧
      ∃ last ∈ run.2.2, found last.state = .held (Utf8.encode "dör") := by
  intro found run
  have honours : scriptData.Honours shiftingTable ⟨7⟩ "notes" found := by
    intro size calls counted
    have short : (shiftingValue calls).length < 0x7fffffff := by
      unfold shiftingValue
      split
      · rw [List.length_replicate]; decide
      split
      · rw [List.length_replicate]; decide
      · decide
    refine ⟨rfl, short, List.length_take_le size _, fun fits => ?_⟩
    refine List.prefix_take_iff.mpr ⟨List.prefix_append _ _, Nat.le_of_lt fits⟩
  have clean : Char.ofNat 0 ∉ "notes".toList := by decide
  have answered : run.1 = .ok (some "dör") := by decide +kernel
  obtain ⟨-, -, ⟨earlier, last, room, whole, -, -, texts, -⟩, -⟩ := read_whole honours clean 0
  refine ⟨honours, clean, answered, by decide +kernel, last, ?_, ((texts "dör").mp answered).1⟩
  rw [whole]
  exact List.mem_append_right earlier List.mem_cons_self

end Getter

end ScriptHost.Foreign
