/-
This file runs programs from two related outsides. Scripts tell the outsides apart only through builtins, so
both runs go in step wherever no builtin that they call does.
-/
import ScriptHost.Content.Loader
import ScriptHost.Proofs.Script.Calls
import ScriptHost.Proofs.Stateful
import ScriptHost.Script.Loose

namespace ScriptHost.Script

variable {α β : Type} {related : Outside → Outside → Prop} {spared : String → Prop}

/-- Both calls answer alike, and what they leave behind is related. -/
def Reply.Linked (related : Outside → Outside → Prop) : Reply → Reply → Prop
  | .answer value outside, .answer same other => value = same ∧ related outside other
  | .refused, .refused => True
  | .panicked message, .panicked same => message = same
  | _, _ => False

/-- No builtin that is spared tells related outsides apart, and both may be told the same records. -/
structure Blind (spared : String → Prop) (related : Outside → Outside → Prop) : Prop where
  call : ∀ name, spared name → ∀ arguments {outside other}, related outside other →
    (Interface.call name arguments outside).Linked related (Interface.call name arguments other)
  report : ∀ record {outside other}, related outside other → related (outside.report record) (other.report record)

structure Machine.Linked (related : Outside → Outside → Prop) (machine other : Machine) : Prop where
  scope : machine.scope = other.scope
  subject : machine.subject = other.subject
  changed : machine.changed = other.changed
  outside : related machine.outside other.outside

namespace Run

/-- From linked machines both runs end in the same way, and the machines are linked again. -/
def InStep (related : Outside → Outside → Prop) (body : Run α) : Prop :=
  ∀ machine other, machine.Linked related other →
    (body.run.run machine).1 = (body.run.run other).1 ∧
      (body.run.run machine).2.Linked related (body.run.run other).2

/-- A run that only returns goes in step. -/
theorem inStep_pure (value : α) : (pure value : Run α).InStep related :=
  fun _ _ linked => ⟨rfl, linked⟩

/-- A run that only stops goes in step. -/
theorem inStep_throw (stop : Stop) : (throw stop : Run α).InStep related :=
  fun _ _ linked => ⟨rfl, linked⟩

/-- Two runs in step go in step together. -/
theorem InStep.bind {body : Run α} {next : α → Run β} (first : body.InStep related)
    (rest : ∀ value, (next value).InStep related) : (body >>= next).InStep related := by
  intro machine other linked
  obtain ⟨ends, after⟩ := first machine other linked
  rw [Stateful.run_bind, Stateful.run_bind]
  revert ends after
  rcases body.run.run machine with ⟨result, machine⟩
  rcases body.run.run other with ⟨result', other⟩
  rintro rfl after
  cases result with
  | ok value => exact rest value machine other after
  | error stop => exact ⟨rfl, after⟩

/-- Dropping the value leaves a run in step. -/
theorem InStep.discard {body : Run α} (first : body.InStep related) :
    (Functor.discard body : Run Unit).InStep related := first.bind fun _ => inStep_pure _

/-- Whoever reads of a machine what both have goes on in step. -/
theorem inStep_get {next : Machine → Run α}
    (same : ∀ machine other, machine.Linked related other → next machine = next other)
    (rest : ∀ machine, (next machine).InStep related) : (get >>= next : Run α).InStep related := by
  intro machine other linked
  rw [Stateful.run_get, Stateful.run_get, ← same machine other linked]
  exact rest machine machine other linked

/-- A change that keeps machines linked may be made. -/
theorem inStep_modify {change : Machine → Machine}
    (kept : ∀ machine other, machine.Linked related other → (change machine).Linked related (change other)) :
    (modify change : Run Unit).InStep related :=
  fun machine other linked => ⟨rfl, kept machine other linked⟩

/-- A test has the same outcome in both machines. -/
theorem inStep_ite {holds : Prop} [Decidable holds] {body other : Run α} (yes : body.InStep related)
    (no : other.InStep related) : (if holds then body else other).InStep related := by
  split
  · exact yes
  · exact no

/-- A failure is the same in both machines. -/
theorem inStep_fail (message : String) : (fail message : Run α).InStep related := inStep_throw _

/-- A result is the same in both machines. -/
theorem inStep_lift (result : Except String α) : (lift result).InStep related := by
  cases result with
  | ok value => exact inStep_pure value
  | error message => exact inStep_fail message

/-- A variable is pushed in both machines. -/
theorem inStep_push (binding : Variable) : (push binding).InStep related :=
  inStep_modify fun _ _ linked => { linked with scope := by rw [linked.scope] }

/-- Both machines are trimmed to the same variables. -/
theorem inStep_trimTo (count : Nat) : (trimTo count).InStep related :=
  inStep_modify fun _ _ linked => { linked with scope := by rw [linked.scope] }

/-- However the block is left, its variables end with it. -/
theorem inBlock_run (body : Run α) (machine : Machine) : (inBlock body).run.run machine =
    ((body.run.run machine).1, ((trimTo machine.scope.length).run.run (body.run.run machine).2).2) := by
  unfold inBlock
  rw [Stateful.run_get, Stateful.run_bind, Stateful.run_tryCatch, Stateful.run_bind]
  rcases body.run.run machine with ⟨stop | value, after⟩ <;> rfl

/-- A block goes in step if its body does. -/
theorem InStep.inBlock {body : Run α} (first : body.InStep related) : (inBlock body).InStep related := by
  intro machine other linked
  obtain ⟨ends, after⟩ := first machine other linked
  rw [inBlock_run, inBlock_run, linked.scope]
  exact ⟨ends, (inStep_trimTo other.scope.length _ _ after).2⟩

/-- Whoever changes only how a run ends leaves it in step. -/
theorem InStep.ending {body : Run α} {changed : Run β} (first : body.InStep related)
    (change : Except Stop α → Except Stop β)
    (run : ∀ machine, changed.run.run machine = (change (body.run.run machine).1, (body.run.run machine).2)) :
    changed.InStep related := by
  intro machine other linked
  obtain ⟨ends, after⟩ := first machine other linked
  rw [run, run, ends]
  exact ⟨rfl, after⟩

end Run

open Run (InStep inStep_pure inStep_throw inStep_get inStep_modify inStep_ite inStep_fail inStep_lift inStep_push)

namespace Way

/-- The base of a way has the same value in both machines. -/
theorem baseValue_inStep (base : Base) : (baseValue base).InStep related := by
  match base with
  | .variable name =>
      apply inStep_get
      · intro machine other linked
        rw [linked.scope]
      · intro machine
        split
        · exact inStep_pure _
        · exact inStep_fail _
  | .subject =>
      apply inStep_get
      · intro machine other linked
        rw [linked.subject]
      · intro machine
        split
        · exact inStep_pure _
        · exact inStep_fail _

/-- The base of a way is set in both machines. -/
theorem setBase_inStep (value : Value) (base : Base) : (setBase value base).InStep related := by
  match base with
  | .variable name =>
      apply inStep_get
      · intro machine other linked
        rw [linked.scope]
      · intro machine
        split
        · apply inStep_ite (inStep_fail _)
          exact inStep_modify fun _ _ linked => { linked with scope := by rw [linked.scope] }
        · exact inStep_fail _
  | .subject =>
      apply inStep_get
      · intro machine other linked
        rw [linked.subject]
      · intro machine
        split
        · exact inStep_modify fun _ _ linked => { linked with subject := rfl, changed := rfl }
        · exact inStep_fail _

/-- A way is read in both machines. -/
theorem read_inStep (way : Way) : way.read.InStep related :=
  (baseValue_inStep way.base).bind fun _ => inStep_lift _

/-- A way is written in both machines. -/
theorem write_inStep (way : Way) (new : Value) : (way.write new).InStep related :=
  (baseValue_inStep way.base).bind fun _ => (inStep_lift _).bind fun _ => setBase_inStep _ _

end Way

open Way (baseValue_inStep read_inStep write_inStep)

/-- A builtin that is spared goes in step. -/
theorem callBuiltin_inStep (blind : Blind spared related) {name : String} (spares : spared name)
    (arguments : List Value) : (callBuiltin name arguments).InStep related := by
  intro machine other linked
  have replies := blind.call name spares arguments linked.outside
  change ((reply (Interface.call name arguments machine.outside)).run.run machine).1 =
      ((reply (Interface.call name arguments other.outside)).run.run other).1 ∧
    ((reply (Interface.call name arguments machine.outside)).run.run machine).2.Linked related
      ((reply (Interface.call name arguments other.outside)).run.run other).2
  revert replies
  cases Interface.call name arguments machine.outside <;>
    cases Interface.call name arguments other.outside <;> intro replies
  case answer.answer value outside value' outside' =>
    obtain ⟨rfl, after⟩ := replies
    exact ⟨rfl, { linked with outside := after }⟩
  case refused.refused => exact ⟨rfl, linked⟩
  case panicked.panicked message message' =>
    obtain rfl : message = message' := replies
    exact ⟨rfl, linked⟩
  all_goals exact replies.elim

/-- A subject is kept in both machines. -/
theorem keep_inStep (way : Option Way) (changed : Option Value) : (keep way changed).InStep related := by
  unfold keep
  split
  · exact write_inStep _ _
  · exact inStep_pure _

def ended : Except Stop Value → Except Stop Value
  | .error (.returned value) => .ok value
  | result => result

/-- A return ends the body of a function and nothing else. -/
theorem untilReturn_run (body : Run Value) (machine : Machine) : (untilReturn body).run.run machine =
    (.ok (ended (body.run.run machine).1), (body.run.run machine).2) := by
  unfold untilReturn
  rw [Stateful.run_bind, Stateful.run_tryCatch, Stateful.run_bind]
  rcases body.run.run machine with ⟨stop | value, after⟩
  · cases stop <;> rfl
  · rfl

/-- A function goes in step if its body does. -/
theorem untilReturn_inStep {body : Run Value} (first : body.InStep related) :
    (untilReturn body).InStep related :=
  first.ending (fun result => .ok (ended result)) (untilReturn_run body)

/-- What the function does to the outside is all that its caller notices, its answer apart. -/
theorem enter_run (parameters : List (String × Value)) (subject : Option Value) (body : Run Value)
    (machine : Machine) : (enter parameters subject body).run.run machine =
      match (untilReturn body).run.run ⟨bindAll parameters, subject, false, machine.outside⟩ with
      | (.ok result, callee) => (.ok (result, if callee.changed then callee.subject else none),
          { machine with outside := callee.outside })
      | (.error stop, callee) => (.error stop, callee) := by
  change ((untilReturn body >>= fun result => get >>= fun callee => (do
    set { callee with scope := machine.scope, subject := machine.subject, changed := machine.changed }
    return (result, if callee.changed then callee.subject else none)) : Run _)).run.run
      ⟨bindAll parameters, subject, false, machine.outside⟩ = _
  rw [Stateful.run_bind]
  rcases (untilReturn body).run.run _ with ⟨stop | result, callee⟩ <;> rfl

/-- Parameters are entered in both machines. -/
theorem enter_inStep {body : Run Value} (parameters : List (String × Value)) (subject : Option Value)
    (first : body.InStep related) : (enter parameters subject body).InStep related := by
  intro machine other linked
  obtain ⟨ends, after⟩ := untilReturn_inStep first
    ⟨bindAll parameters, subject, false, machine.outside⟩ ⟨bindAll parameters, subject, false, other.outside⟩
    ⟨rfl, rfl, rfl, linked.outside⟩
  rw [enter_run, enter_run]
  revert ends after
  rcases (untilReturn body).run.run ⟨_, subject, false, machine.outside⟩ with ⟨result, callee⟩
  rcases (untilReturn body).run.run ⟨_, subject, false, other.outside⟩ with ⟨result', callee'⟩
  rintro rfl after
  cases result with
  | ok result =>
      refine ⟨?_, { linked with outside := after.outside }⟩
      dsimp only
      rw [after.changed, after.subject]
  | error stop => exact ⟨rfl, after⟩

/-- What a function ends with is taken up in both machines. -/
theorem resume_inStep (result : Except Stop Value) : (resume result).InStep related := by
  cases result with
  | ok value => exact inStep_pure value
  | error stop => exact inStep_throw stop

def rounded : Except Stop Unit → Except Stop Bool
  | .ok () => .ok true
  | .error .left => .ok false
  | .error .skipped => .ok true
  | .error stop => .error stop

/-- A round of a loop is ended by what breaks it or goes on. -/
theorem round_run (body : Run Unit) (machine : Machine) : (round body).run.run machine =
    (rounded (body.run.run machine).1, (body.run.run machine).2) := by
  unfold round
  rw [Stateful.run_bind, Stateful.run_tryCatch, Stateful.run_bind]
  rcases body.run.run machine with ⟨stop | done, after⟩
  · cases stop <;> rfl
  · rfl

/-- A loop goes in step if its rounds do. -/
theorem round_inStep {body : Run Unit} (first : body.InStep related) : (round body).InStep related :=
  first.ending rounded (round_run body)

/-- All code of a program that calls what is spared goes in step as long as it takes no more steps than these. -/
structure Steps (spared : String → Prop) (related : Outside → Outside → Prop) (program : Program) (fuel : Nat) :
    Prop where
  evaluate : ∀ {level expression}, Spares spared expression.calls →
    (evaluate fuel program level expression).InStep related
  condition : ∀ {level expression}, Spares spared expression.calls →
    (condition fuel program level expression).InStep related
  evaluateAll : ∀ {level expressions}, Spares spared (callsOfAll expressions) →
    (evaluateAll fuel program level expressions).InStep related
  callFunction : ∀ {level function values subject}, Spares spared (callsOfBody function.body) →
    (callFunction fuel program level function values subject).InStep related
  findSubject : ∀ {level base}, Spares spared base.calls → (findSubject fuel program level base).InStep related
  findWay : ∀ {level expression}, Spares spared expression.calls →
    (findWay fuel program level expression).InStep related
  runBody : ∀ {level body}, Spares spared (callsOfBody body) → (runBody fuel program level body).InStep related
  runStatement : ∀ {level statement}, Spares spared statement.calls →
    (runStatement fuel program level statement).InStep related
  runWhile : ∀ {level test body}, Spares spared test.calls → Spares spared (callsOfBody body) →
    (runWhile fuel program level test body).InStep related
  runListed : ∀ {level name body items}, Spares spared (callsOfBody body) →
    (runListed fuel program level name body items).InStep related
  runCounted : ∀ {level name body next count}, Spares spared (callsOfBody body) →
    (runCounted fuel program level name body next count).InStep related

namespace Steps

variable {program : Program}

/-- Without fuel both machines stop. -/
theorem zero : Steps spared related program 0 := by
  constructor <;> intros <;> simp only [Script.evaluate, Script.condition, Script.evaluateAll, Script.callFunction,
    Script.findSubject, Script.findWay, Script.runBody, Script.runStatement, Script.runWhile, Script.runListed,
    Script.runCounted] <;> exact inStep_throw _

variable {fuel : Nat} (steps : Steps spared related program fuel) (level : Nat)
include steps

/-- The program decides who is called, and a builtin must be spared. -/
theorem call (blind : Blind spared related) (whole : Spares spared program.calls) {name : String}
    {arguments : List Expression} (spares : Spares spared (Expression.call name arguments).calls) :
    (Script.evaluate (fuel + 1) program level (.call name arguments)).InStep related := by
  obtain ⟨named, given⟩ := spares_cons.mp spares
  unfold Script.evaluate
  apply (steps.evaluateAll given).bind
  intro values
  dsimp only
  split
  · next function found =>
      exact (steps.callFunction (program.find?_spares whole found)).bind fun _ => resume_inStep _
  · split
    · next base _ _ _ _ =>
        have first : Spares spared base.calls := (spares_append.mp given).1
        split
        · exact (steps.findSubject first).bind fun _ => (keep_inStep _ _).bind fun _ => inStep_pure _
        · exact callBuiltin_inStep blind named _
    · exact callBuiltin_inStep blind named _

/-- A method calls the same function in both machines, or the same builtin. -/
theorem method (blind : Blind spared related) (whole : Spares spared program.calls) {base : Expression}
    {name : String} {arguments : List Expression}
    (spares : Spares spared (Expression.method base name arguments).calls) :
    (Script.evaluate (fuel + 1) program level (.method base name arguments)).InStep related := by
  obtain ⟨named, rest⟩ := spares_cons.mp spares
  obtain ⟨first, given⟩ := spares_append.mp rest
  unfold Script.evaluate
  apply (steps.evaluateAll given).bind
  intro values
  apply (steps.findSubject first).bind
  intro subject
  dsimp only
  split
  · next function found =>
      exact (steps.callFunction (program.find?_spares whole found)).bind fun _ =>
        (keep_inStep _ _).bind fun _ => resume_inStep _
  · split
    · exact (keep_inStep _ _).bind fun _ => inStep_pure _
    · exact callBuiltin_inStep blind named _

/-- An expression goes in step if its parts do. -/
theorem evaluate_succ (blind : Blind spared related) (whole : Spares spared program.calls) {expression : Expression}
    (spares : Spares spared expression.calls) :
    (Script.evaluate (fuel + 1) program level expression).InStep related := by
  cases expression
  case call name arguments => exact steps.call level blind whole spares
  case method base name arguments => exact steps.method level blind whole spares
  all_goals rw [Script.evaluate]
  case literal value => exact inStep_pure value
  case text parts => exact (steps.evaluateAll spares).bind fun _ => inStep_pure _
  case array items => exact (steps.evaluateAll spares).bind fun _ => inStep_pure _
  case map entries =>
    rw [Expression.calls, callsOfEntries_eq] at spares
    exact (steps.evaluateAll spares).bind fun _ => inStep_pure _
  case negate operand =>
    have inner : Spares spared operand.calls := spares
    exact (steps.evaluate inner).bind fun _ => inStep_lift _
  case affirm operand =>
    have inner : Spares spared operand.calls := spares
    exact (steps.evaluate inner).bind fun _ => inStep_lift _
  case invert operand =>
    have inner : Spares spared operand.calls := spares
    exact (steps.evaluate inner).bind fun _ => inStep_lift _
  case binary operator left right =>
    obtain ⟨first, second⟩ := spares_append.mp spares
    exact (steps.evaluate first).bind fun _ => (steps.evaluate second).bind fun _ => inStep_lift _
  case both left right =>
    obtain ⟨first, second⟩ := spares_append.mp spares
    exact (steps.condition first).bind fun _ =>
      inStep_ite ((steps.condition second).bind fun _ => inStep_pure _) (inStep_pure _)
  case either left right =>
    obtain ⟨first, second⟩ := spares_append.mp spares
    exact (steps.condition first).bind fun _ =>
      inStep_ite (inStep_pure _) ((steps.condition second).bind fun _ => inStep_pure _)
  case field base name =>
    have inner : Spares spared base.calls := spares
    exact (steps.evaluate inner).bind fun _ => inStep_lift _
  case index base place =>
    obtain ⟨first, second⟩ := spares_append.mp spares
    exact (steps.evaluate first).bind fun _ => (steps.evaluate second).bind fun _ => inStep_lift _
  case block body => exact (steps.runBody spares).inBlock
  case choose test yes no =>
    obtain ⟨tested, bodies⟩ := spares_append.mp spares
    obtain ⟨first, second⟩ := spares_append.mp bodies
    exact (steps.condition tested).bind fun _ =>
      inStep_ite (steps.runBody first).inBlock (steps.runBody second).inBlock
  -- What is left reads a variable or `this`.
  all_goals exact baseValue_inStep _

/-- A condition has the same outcome in both machines. -/
theorem condition_succ {expression : Expression} (spares : Spares spared expression.calls) :
    (Script.condition (fuel + 1) program level expression).InStep related := by
  unfold Script.condition
  apply (steps.evaluate spares).bind
  intro value
  cases value <;> first | exact inStep_pure _ | exact inStep_fail _

/-- Expressions go in step one after the other. -/
theorem evaluateAll_succ {expressions : List Expression} (spares : Spares spared (callsOfAll expressions)) :
    (Script.evaluateAll (fuel + 1) program level expressions).InStep related := by
  unfold Script.evaluateAll
  cases expressions with
  | nil => exact inStep_pure _
  | cons first rest =>
      obtain ⟨here, later⟩ := spares_append.mp spares
      exact (steps.evaluate here).bind fun _ => (steps.evaluateAll later).bind fun _ => inStep_pure _

/-- A function that is called goes in step. -/
theorem callFunction_succ {function : Function} (values : List Value) (subject : Option Value)
    (spares : Spares spared (callsOfBody function.body)) :
    (Script.callFunction (fuel + 1) program level function values subject).InStep related := by
  unfold Script.callFunction
  exact inStep_ite (inStep_fail _) (enter_inStep _ _ (steps.runBody spares))

/-- The subject of a method is the same in both machines. -/
theorem findSubject_succ {base : Expression} (spares : Spares spared base.calls) :
    (Script.findSubject (fuel + 1) program level base).InStep related := by
  unfold Script.findSubject
  exact inStep_ite ((steps.findWay spares).bind fun _ => (read_inStep _).bind fun _ => inStep_pure _)
    ((steps.evaluate spares).bind fun _ => inStep_pure _)

/-- An expression leads the same way in both machines. -/
theorem findWay_succ {expression : Expression} (spares : Spares spared expression.calls) :
    (Script.findWay (fuel + 1) program level expression).InStep related := by
  unfold Script.findWay
  cases expression
  case field base name =>
    have inner : Spares spared base.calls := spares
    exact (steps.findWay inner).bind fun _ => inStep_pure _
  case index base place =>
    obtain ⟨first, second⟩ := spares_append.mp spares
    exact (steps.findWay first).bind fun _ => (steps.evaluate second).bind fun _ => inStep_pure _
  all_goals first | exact inStep_pure _ | exact inStep_fail _

/-- Statements go in step one after the other. -/
theorem runBody_succ {body : List Statement} (spares : Spares spared (callsOfBody body)) :
    (Script.runBody (fuel + 1) program level body).InStep related := by
  unfold Script.runBody
  match body with
  | [] => exact inStep_pure _
  | [last] => exact steps.runStatement (spares_append.mp spares).1
  | first :: second :: rest =>
      obtain ⟨here, later⟩ := spares_append.mp spares
      exact (steps.runStatement here).discard.bind fun _ => steps.runBody later

/-- An assignment goes in step if its target and its value do. -/
theorem assign {target value : Expression} (operator : Option Operator)
    (spares : Spares spared (Statement.assign target operator value).calls) :
    (Script.runStatement (fuel + 1) program level (.assign target operator value)).InStep related := by
  obtain ⟨placed, valued⟩ := spares_append.mp spares
  unfold Script.runStatement
  apply (steps.evaluate valued).bind
  intro value
  apply (steps.findWay placed).bind
  intro way
  cases operator with
  | none => exact (write_inStep _ _).bind fun _ => inStep_pure _
  | some operator =>
      exact (read_inStep _).bind fun _ => (inStep_lift _).bind fun _ => (write_inStep _ _).bind fun _ => inStep_pure _

/-- A loop over a source goes in step if its body does. -/
theorem forEach {name : String} {source : Expression} {body : List Statement}
    (spares : Spares spared (Statement.forEach name source body).calls) :
    (Script.runStatement (fuel + 1) program level (.forEach name source body)).InStep related := by
  obtain ⟨sourced, bodied⟩ := spares_append.mp spares
  unfold Script.runStatement
  apply (steps.evaluate sourced).bind
  intro value
  apply (inStep_lift (visits value)).bind
  intro visits
  cases visits with
  | listed items => exact (steps.runListed bodied).bind fun _ => inStep_pure _
  | counted first count => exact (steps.runCounted bodied).bind fun _ => inStep_pure _

/-- A statement goes in step if its parts do. -/
theorem runStatement_succ {statement : Statement} (spares : Spares spared statement.calls) :
    (Script.runStatement (fuel + 1) program level statement).InStep related := by
  cases statement
  case assign target operator value => exact steps.assign level operator spares
  case forEach name source body => exact steps.forEach level spares
  all_goals rw [Script.runStatement]
  case declare constant name value =>
    exact (steps.evaluate spares).bind fun _ => (inStep_push _).bind fun _ => inStep_pure _
  case evaluate value => exact steps.evaluate spares
  case loop test body =>
    obtain ⟨tested, bodied⟩ := spares_append.mp spares
    exact (steps.runWhile tested bodied).bind fun _ => inStep_pure _
  case leave => exact inStep_throw _
  case skip => exact inStep_throw _
  case deliver value => exact (steps.evaluate spares).bind fun _ => inStep_throw _
  case raise value => exact (steps.evaluate spares).bind fun _ => inStep_fail _

/-- A loop with a test has as many rounds in both machines. -/
theorem runWhile_succ {test : Expression} {body : List Statement} (tested : Spares spared test.calls)
    (bodied : Spares spared (callsOfBody body)) :
    (Script.runWhile (fuel + 1) program level test body).InStep related := by
  rw [Script.runWhile]
  exact (steps.condition tested).bind fun _ => inStep_ite
    ((round_inStep (steps.runBody bodied).discard.inBlock).bind fun _ =>
      inStep_ite (steps.runWhile tested bodied) (inStep_pure _))
    (inStep_pure _)

/-- A loop over items has the same rounds in both machines. -/
theorem runListed_succ (name : String) {body : List Statement} (items : List Value)
    (bodied : Spares spared (callsOfBody body)) :
    (Script.runListed (fuel + 1) program level name body items).InStep related := by
  unfold Script.runListed
  cases items with
  | nil => exact inStep_pure _
  | cons item rest =>
      have once : (do Run.push ⟨name, item, false⟩; discard (Script.runBody fuel program level body) :
          Run Unit).InStep related := (inStep_push _).bind fun _ => (steps.runBody bodied).discard
      exact (round_inStep once.inBlock).bind fun _ => inStep_ite (steps.runListed bodied) (inStep_pure _)

/-- A loop over numbers has the same rounds in both machines. -/
theorem runCounted_succ (name : String) {body : List Statement} (next : Int) (count : Nat)
    (bodied : Spares spared (callsOfBody body)) :
    (Script.runCounted (fuel + 1) program level name body next count).InStep related := by
  unfold Script.runCounted
  cases count with
  | zero => exact inStep_pure _
  | succ count =>
      have once : (do Run.push ⟨name, .integer (Int64.ofInt next), false⟩
                      discard (Script.runBody fuel program level body) : Run Unit).InStep related :=
        (inStep_push _).bind fun _ => (steps.runBody bodied).discard
      exact (round_inStep once.inBlock).bind fun _ => inStep_ite (steps.runCounted bodied) (inStep_pure _)

/-- More fuel leaves all steps in step. -/
theorem succ (blind : Blind spared related) (whole : Spares spared program.calls) :
    Steps spared related program (fuel + 1) where
  evaluate {level _} spares := steps.evaluate_succ level blind whole spares
  condition {level _} spares := steps.condition_succ level spares
  evaluateAll {level _} spares := steps.evaluateAll_succ level spares
  callFunction {level _ values subject} spares := steps.callFunction_succ level values subject spares
  findSubject {level _} spares := steps.findSubject_succ level spares
  findWay {level _} spares := steps.findWay_succ level spares
  runBody {level _} spares := steps.runBody_succ level spares
  runStatement {level _} spares := steps.runStatement_succ level spares
  runWhile {level _ _} tested bodied := steps.runWhile_succ level tested bodied
  runListed {level name _ items} bodied := steps.runListed_succ level name items bodied
  runCounted {level name _ next count} bodied := steps.runCounted_succ level name next count bodied

end Steps

/-- However many steps it takes, a program goes in step. -/
theorem steps (blind : Blind spared related) {program : Program} (whole : Spares spared program.calls) (fuel : Nat) :
    Steps spared related program fuel := by
  induction fuel with
  | zero => exact .zero
  | succ fuel ih => exact ih.succ blind whole

namespace Blind

variable {outside other : Outside} (blind : Blind spared related)
include blind

/-- A program ends alike from both outsides. -/
theorem run {program : Program} (whole : Spares spared program.calls) (scope : List Variable)
    (linked : related outside other) :
    (program.run scope outside).1 = (program.run scope other).1 ∧
      related (program.run scope outside).2 (program.run scope other).2 := by
  have body : (runBody stepLimit program 0 program.body).InStep related :=
    (steps blind whole stepLimit).runBody (program.body_spares whole)
  obtain ⟨ends, after⟩ :=
    body ⟨scope, none, false, outside⟩ ⟨scope, none, false, other⟩ ⟨rfl, rfl, rfl, linked⟩
  exact ⟨congrArg Outcome.ofRun ends, after.outside⟩

/-- A hook ends alike from both outsides. -/
theorem callHook {program : Program} (whole : Spares spared program.calls) (name : String) (arguments : List Value)
    (subject : Value) (linked : related outside other) :
    (program.callHook name arguments subject outside).1 = (program.callHook name arguments subject other).1 ∧
      (program.callHook name arguments subject outside).2.1 =
        (program.callHook name arguments subject other).2.1 ∧
      related (program.callHook name arguments subject outside).2.2
        (program.callHook name arguments subject other).2.2 := by
  unfold Program.callHook
  cases found : program.find? name arguments.length with
  | none => exact ⟨rfl, rfl, linked⟩
  | some function =>
      obtain ⟨ends, after⟩ := (steps blind whole stepLimit).runBody (program.find?_spares whole found)
        ⟨bindAll (function.parameters.zip arguments), some subject, false, outside⟩
        ⟨bindAll (function.parameters.zip arguments), some subject, false, other⟩ ⟨rfl, rfl, rfl, linked⟩
      exact ⟨congrArg Outcome.ofRun ends, congrArg (·.getD subject) after.subject, after.outside⟩

/-- A loose unit ends alike from both outsides. -/
theorem runLoose (signal : Tick.Signal) {unit : CompiledUnit} (whole : Spares spared unit.program.calls)
    (linked : related outside other) :
    (Script.runLoose signal unit outside).1 = (Script.runLoose signal unit other).1 ∧
      related (Script.runLoose signal unit outside).2 (Script.runLoose signal unit other).2 := by
  obtain ⟨ends, after⟩ := blind.run whole (looseVariables signal) linked
  exact ⟨congrArg (faultOf unit.name) ends, after⟩

/-- The units of a set end alike from both outsides. -/
theorem runAll (signal : Tick.Signal) {units : List CompiledUnit} (sparing : SparingUnits spared units)
    (linked : related outside other) :
    (Script.runAll signal units outside).1 = (Script.runAll signal units other).1 ∧
      related (Script.runAll signal units outside).2 (Script.runAll signal units other).2 := by
  induction units generalizing outside other with
  | nil => exact ⟨rfl, linked⟩
  | cons unit rest ih =>
      obtain ⟨whole, sparing⟩ := List.forall_mem_cons.mp sparing
      obtain ⟨ends, after⟩ := blind.runLoose signal whole linked
      unfold Script.runAll
      revert ends after
      rcases Script.runLoose signal unit outside with ⟨fault, outside⟩
      rcases Script.runLoose signal unit other with ⟨fault', other⟩
      rintro rfl after
      cases fault with
      | none =>
          obtain ⟨counts, last⟩ := ih sparing after
          exact ⟨congrArg (fun count : RunCount => { count with ran := count.ran + 1 }) counts, last⟩
      | some fault =>
          obtain ⟨counts, last⟩ := ih sparing (blind.report (looseFault unit.name signal fault) after)
          exact ⟨congrArg (fun count : RunCount => { count with failed := count.failed + 1 }) counts, last⟩

/-- Content is loaded alike from both outsides. -/
theorem loadUnits (kind : Content.Kind) (taken : List String) {units : List CompiledUnit}
    (sparing : SparingUnits spared units) (linked : related outside other) :
    (Content.loadUnits kind taken units outside).1 = (Content.loadUnits kind taken units other).1 ∧
      related (Content.loadUnits kind taken units outside).2 (Content.loadUnits kind taken units other).2 := by
  induction units generalizing taken outside other with
  | nil => exact ⟨rfl, linked⟩
  | cons unit rest ih =>
      obtain ⟨whole, sparing⟩ := List.forall_mem_cons.mp sparing
      obtain ⟨ends, after⟩ := blind.run whole Content.contentVariables linked
      unfold Content.loadUnits
      revert ends after
      rcases unit.program.run Content.contentVariables outside with ⟨outcome, outside⟩
      rcases unit.program.run Content.contentVariables other with ⟨outcome', other⟩
      rintro rfl after
      dsimp only
      cases Content.judge kind taken unit.name outcome with
      | ok definition =>
          obtain ⟨loaded, last⟩ := ih (definition.id :: taken) sparing after
          exact ⟨congrArg (fun loaded : Content.Loaded =>
            { loaded with definitions := definition :: loaded.definitions }) loaded, last⟩
      | error error =>
          obtain ⟨loaded, last⟩ := ih taken sparing (blind.report (Content.skipRecord kind error) after)
          exact ⟨congrArg (fun loaded : Content.Loaded =>
            { loaded with skipped := error :: loaded.skipped }) loaded, last⟩

/-- Records may be reported to both outsides. -/
theorem reports (records : List TraceRecord) (linked : related outside other) :
    related (records.foldl Outside.report outside) (records.foldl Outside.report other) := by
  induction records generalizing outside other with
  | nil => exact linked
  | cons record rest ih => exact ih (blind.report record linked)

/-- A loader is reloaded alike from both outsides. -/
theorem reload {tree : File.Tree} {loader : Content.Loader} (sparing : loader.cache.Sparing spared tree)
    (linked : related outside other) :
    (loader.reload tree outside).1 = (loader.reload tree other).1 ∧
      (loader.reload tree outside).2.2 = (loader.reload tree other).2.2 ∧
      related (loader.reload tree outside).2.1 (loader.reload tree other).2.1 := by
  have units := sparing.reload.units
  have published : ∀ set, (loader.cache.reload tree).2.2 = .ok set →
      (loader.cache.reload tree).1.active = set := fun _ => Script.UnitCache.reload_set
  unfold Content.Loader.reload
  revert units published
  rcases loader.cache.reload tree with ⟨cache, records, result⟩
  intro units published
  have told := blind.reports records linked
  cases result with
  | error error => exact ⟨rfl, rfl, told⟩
  | ok set =>
      obtain rfl : cache.active = set := published set rfl
      obtain ⟨loaded, after⟩ := blind.loadUnits loader.kind [] units told
      refine ⟨?_, ?_, after⟩
      · exact congrArg (fun loaded : Content.Loaded => Content.Loader.mk loader.kind cache loaded.definitions) loaded
      · exact congrArg Except.ok loaded

end Blind

end ScriptHost.Script
