/-
This file says what the units of a set do in one tick. They run one after the other, and what each of them does
depends on its program, the signal, the engine that it finds and the draws to come, and on nothing that another unit
declared.
-/
import ScriptHost.Proofs.Script.Trails

namespace ScriptHost.Script

variable {signal : Tick.Signal} {units : List CompiledUnit} {outside : Outside}

/-- The lines and records of this run stand behind earlier ones. -/
def Outside.continued (log : List String) (records : List TraceRecord) (outside : Outside) : Outside :=
  ⟨outside.engine, outside.draws, log ++ outside.log, records ++ outside.records⟩

/-- Builtins write to the end of the log and of the records. -/
theorem continued_bound (log : List String) (records : List TraceRecord) :
    EngineBound (fun _ => True) fun outside other => other = outside.continued log records where
  engine same := by
    rw [same]
    rfl
  say same line := by
    rw [same]
    simp [Outside.continued, Outside.say]
  report same record := by
    rw [same]
    simp [Outside.continued, Outside.report]
  stores same _ _ := by
    rw [same]
    rfl
  draws _ _ _ same := by
    rw [same]
    rfl
  drawn _ _ _ same := by
    rw [same]
    rfl

/-- What stood in the log and was reported before makes no difference to a run. -/
theorem run_continued (program : Program) (scope : List Variable) (engine : Engine) (draws : Draws)
    (log : List String) (records : List TraceRecord) : program.run scope ⟨engine, draws, log, records⟩ =
      ((program.run scope ⟨engine, draws, [], []⟩).1,
        (program.run scope ⟨engine, draws, [], []⟩).2.continued log records) := by
  have start : (⟨engine, draws, log, records⟩ : Outside) =
      Outside.continued log records ⟨engine, draws, [], []⟩ := by
    simp [Outside.continued]
  have whole : Spares (fun _ => True) program.calls := .of_all (fun _ => trivial) _
  obtain ⟨outcome, after⟩ := (continued_bound log records).blind.run whole scope start
  exact Prod.ext outcome.symm after

/-- This is all that a program gets to see in a tick: the signal, the engine, and what it draws. -/
def conduct (signal : Tick.Signal) (program : Program) (engine : Engine) (draws : Draws) : Outcome × Outside :=
  program.run (looseVariables signal) ⟨engine, draws, [], []⟩

/-- One unit takes its turn, from the engine and the draws that it finds to what it leaves. -/
structure Turn where
  unit : CompiledUnit
  before : Engine
  draws : Draws
  outcome : Outcome
  after : Outside

namespace Turn

def take (signal : Tick.Signal) (unit : CompiledUnit) (engine : Engine) (draws : Draws) : Turn :=
  ⟨unit, engine, draws, (conduct signal unit.program engine draws).1, (conduct signal unit.program engine draws).2⟩

def fault? (turn : Turn) : Option Fault :=
  faultOf turn.unit.name turn.outcome

/-- A fault is reported behind what the unit reported itself. -/
def records (signal : Tick.Signal) (turn : Turn) : List TraceRecord :=
  turn.after.records ++ (turn.fault?.map (looseFault turn.unit.name signal)).toList

/-- Each turn begins with the engine that the one before it left, and with the draws that it did not take. -/
inductive Follow : Engine → Draws → List Turn → Engine → Draws → Prop
  | done (engine : Engine) (draws : Draws) : Follow engine draws [] engine draws
  | next {turn : Turn} {rest : List Turn} {last : Engine} {left : Draws}
      (later : Follow turn.after.engine turn.after.draws rest last left) :
      Follow turn.before turn.draws (turn :: rest) last left

end Turn

/-- A loose unit takes one turn, and what it writes goes behind the rest. -/
theorem runLoose_turn (signal : Tick.Signal) (unit : CompiledUnit) (outside : Outside) :
    runLoose signal unit outside = ((Turn.take signal unit outside.engine outside.draws).fault?,
      (Turn.take signal unit outside.engine outside.draws).after.continued outside.log outside.records) := by
  unfold runLoose
  rw [run_continued]
  rfl

/-- What a turn leaves is all that the later units find. -/
def Turn.leaves (signal : Tick.Signal) (turn : Turn) (outside : Outside) : Outside :=
  ⟨turn.after.engine, turn.after.draws, outside.log ++ turn.after.log, outside.records ++ turn.records signal⟩

/-- Whether or not the unit fails, the others run after it. -/
theorem runAll_turn (signal : Tick.Signal) (unit : CompiledUnit) (rest : List CompiledUnit) (outside : Outside) :
    let turn := Turn.take signal unit outside.engine outside.draws
    let answer := runAll signal rest (turn.leaves signal outside)
    runAll signal (unit :: rest) outside = (⟨answer.1.ran + if turn.fault?.isNone then 1 else 0,
      answer.1.failed + if turn.fault?.isSome then 1 else 0⟩, answer.2) := by
  intro turn answer
  have played : runLoose signal unit outside =
      (turn.fault?, turn.after.continued outside.log outside.records) := runLoose_turn signal unit outside
  rw [runAll, played]
  cases fault : turn.fault? with
  | none =>
      have left : turn.after.continued outside.log outside.records = turn.leaves signal outside := by
        simp [Turn.leaves, Turn.records, fault, Outside.continued]
      simp only [left]
      rfl
  | some reason =>
      have left : (turn.after.continued outside.log outside.records).report (looseFault unit.name signal reason) =
          turn.leaves signal outside := by
        have told : looseFault turn.unit.name signal reason = looseFault unit.name signal reason := rfl
        simp [Turn.leaves, Turn.records, fault, told, Outside.continued, Outside.report]
      simp only [left]
      rfl

/-- All units of the set take their turns, whatever went wrong before, and each takes one. -/
structure Phase (signal : Tick.Signal) (units : List CompiledUnit) (outside : Outside)
    (answer : RunCount × Outside) (turns : List Turn) : Prop where
  order : turns.map Turn.unit = units
  conducted : ∀ turn ∈ turns, (turn.outcome, turn.after) = conduct signal turn.unit.program turn.before turn.draws
  follow : Turn.Follow outside.engine outside.draws turns answer.2.engine answer.2.draws
  log : answer.2.log = outside.log ++ turns.flatMap (·.after.log)
  records : answer.2.records = outside.records ++ turns.flatMap (Turn.records signal)
  ran : answer.1.ran = turns.countP (·.fault?.isNone)
  failed : answer.1.failed = turns.countP (·.fault?.isSome)
  counted : answer.1.ran + answer.1.failed = units.length

/-- Every turn ends well or with a fault. -/
theorem countP_faults (turns : List Turn) :
    turns.countP (·.fault?.isNone) + turns.countP (·.fault?.isSome) = turns.length := by
  rw [List.length_eq_countP_add_countP (fun turn : Turn => turn.fault?.isNone)]
  congr 1
  apply List.countP_congr
  intro turn _
  cases turn.fault? <;> simp

/-- The units of a set go through their turns in the order of the set. -/
theorem runAll_phase (signal : Tick.Signal) (units : List CompiledUnit) (outside : Outside) :
    ∃ turns, Phase signal units outside (runAll signal units outside) turns := by
  induction units generalizing outside with
  | nil => exact ⟨[], rfl, by simp, .done _ _, by simp [runAll], by simp [runAll], rfl, rfl, rfl⟩
  | cons unit rest ih =>
      let turn := Turn.take signal unit outside.engine outside.draws
      obtain ⟨turns, phase⟩ := ih (turn.leaves signal outside)
      have order : (turn :: turns).map Turn.unit = unit :: rest := by
        rw [List.map_cons, phase.order]
        rfl
      have step := runAll_turn signal unit rest outside
      refine ⟨turn :: turns, ?_⟩
      rw [step]
      refine ⟨order, ?_, .next phase.follow, ?_, ?_, ?_, ?_, ?_⟩
      · exact List.forall_mem_cons.mpr ⟨rfl, phase.conducted⟩
      · rw [phase.log, Turn.leaves, List.append_assoc, List.flatMap_cons]
      · rw [phase.records, Turn.leaves, List.append_assoc, List.flatMap_cons]
      · rw [List.countP_cons, ← phase.ran]
      · rw [List.countP_cons, ← phase.failed]
      · dsimp only
        rw [phase.ran, phase.failed, ← List.countP_cons (l := turns), ← List.countP_cons, countP_faults, ← order,
          List.length_map]

/-- A tick shows its index as long as an integer holds it, and the largest integer otherwise. -/
theorem tickNumber_toInt (index : UInt64) :
    (tickNumber index).toInt = min index.toNat 0x7fffffffffffffff := by
  unfold tickNumber
  split
  · next low =>
      rw [Nat.min_eq_left (by omega)]
      change index.toBitVec.toInt = _
      rw [BitVec.toInt_eq_toNat_of_lt]
      · rfl
      · change 2 * index.toNat < 2 ^ 64
        omega
  · next high =>
      rw [Nat.min_eq_right (by omega)]
      decide

end ScriptHost.Script
