/-
This file runs programs.
-/
import ScriptHost.Script.Arithmetic
import ScriptHost.Script.Interface

namespace ScriptHost.Script

structure Variable where
  name : String
  value : Value
  constant : Bool

/-- The variables in scope stand latest first. The subject is what `this` means, which may be nothing,
and it counts as changed once it has been assigned to. -/
structure Machine where
  scope : List Variable
  subject : Option Value
  changed : Bool
  outside : Outside

/-- These are the ways in which running code stops before its end. -/
inductive Stop where
  | failed (message : String)
  | panicked (message : String)
  | left
  | skipped
  | returned (value : Value)
  | exhausted

abbrev Run (α : Type) := ExceptT Stop (StateM Machine) α

namespace Run

def fail {α : Type} (message : String) : Run α :=
  throw (.failed message)

def lift {α : Type} (result : Except String α) : Run α :=
  match result with
  | .ok value => pure value
  | .error message => fail message

def push (binding : Variable) : Run Unit :=
  modify fun machine => { machine with scope := binding :: machine.scope }

def trimTo (count : Nat) : Run Unit :=
  modify fun machine =>
    { machine with scope := machine.scope.drop (machine.scope.length - count) }

/-- Variables of the block end with it, however it is left. -/
def inBlock {α : Type} (body : Run α) : Run α := do
  let count := (← get).scope.length
  try
    let value ← body
    trimTo count
    return value
  catch stop =>
    trimTo count
    throw stop

end Run

/-- A place is a variable or `this`, and a way into its value. -/
inductive Base where
  | variable (name : String)
  | subject

inductive Step where
  | field (name : String)
  | item (key : Value)

structure Way where
  base : Base
  steps : List Step

namespace Way

def find (name : String) (scope : List Variable) : Option Variable :=
  scope.find? fun binding => binding.name == name

def replace (name : String) (value : Value) : List Variable → List Variable
  | [] => []
  | binding :: rest =>
      if binding.name = name then { binding with value } :: rest
      else binding :: replace name value rest

/-- A negative index counts from the end. -/
def position (length : Nat) (index : Int64) : Option Nat :=
  let wanted := if index < 0 then length + index.toInt else index.toInt
  if 0 ≤ wanted ∧ wanted < length then some wanted.toNat else none

def readStep (value : Value) : Step → Except String Value
  | .field name =>
      match value with
      | .map entries => .ok ((Value.lookup name entries).getD .unit)
      | .array items =>
          if name = "len" then .ok (.integer (Int64.ofNat items.length)) else .error "no such field"
      | .string text =>
          if name = "len" then .ok (.integer (Int64.ofNat text.length)) else .error "no such field"
      | _ => .error "no such field"
  | .item key =>
      match value, key with
      | .map entries, .string name => .ok ((Value.lookup name entries).getD .unit)
      | .array items, .integer index =>
          match (position items.length index).bind (items[·]?) with
          | some item => .ok item
          | none => .error "index out of range"
      | .string text, .integer index =>
          match (position text.length index).bind (text.toList[·]?) with
          | some item => .ok (.character item)
          | none => .error "index out of range"
      | _, _ => .error "cannot be indexed"

def writeStep (value : Value) (new : Value) : Step → Except String Value
  | .field name =>
      match value with
      | .map entries => .ok (.map (Json.put name new entries))
      | _ => .error "no such field"
  | .item key =>
      match value, key with
      | .map entries, .string name => .ok (.map (Json.put name new entries))
      | .array items, .integer index =>
          match position items.length index with
          | some place => .ok (.array (items.set place new))
          | none => .error "index out of range"
      | .string text, .integer index =>
          match position text.length index, new with
          | some place, .character item => .ok (.string (String.ofList (text.toList.set place item)))
          | _, _ => .error "index out of range"
      | _, _ => .error "cannot be indexed"

def readSteps : Value → List Step → Except String Value
  | value, [] => .ok value
  | value, step :: rest => do
      let inner ← readStep value step
      readSteps inner rest

def writeSteps : Value → List Step → Value → Except String Value
  | _, [], new => .ok new
  | value, step :: rest, new => do
      let inner ← if rest.isEmpty then .ok .unit else readStep value step
      let inner ← writeSteps inner rest new
      writeStep value inner step

def baseValue : Base → Run Value
  | .variable name => do
      match find name (← get).scope with
      | some binding => return binding.value
      | none => Run.fail s!"variable not found: {name}"
  | .subject => do
      match (← get).subject with
      | some value => return value
      | none => Run.fail "this is not bound"

def setBase (value : Value) : Base → Run Unit
  | .variable name => do
      match find name (← get).scope with
      | some binding =>
          if binding.constant then Run.fail s!"cannot assign to constant {name}"
          else modify fun machine =>
            { machine with scope := replace name value machine.scope }
      | none => Run.fail s!"variable not found: {name}"
  | .subject => do
      match (← get).subject with
      | some _ => modify fun machine => { machine with subject := some value, changed := true }
      | none => Run.fail "this is not bound"

def read (way : Way) : Run Value := do
  Run.lift (readSteps (← baseValue way.base) way.steps)

def write (way : Way) (new : Value) : Run Unit := do
  let value ← Run.lift (writeSteps (← baseValue way.base) way.steps new)
  setBase value way.base

end Way

/-- Calls of functions may nest this deep. -/
def callLimit : Nat := 64

def reply (result : Reply) : Run Value :=
  match result with
  | .answer value outside => do
      modify fun machine => { machine with outside }
      return value
  | .refused => Run.fail "function not found"
  | .panicked message => throw (.panicked message)

def callBuiltin (name : String) (arguments : List Value) : Run Value := do
  reply (Interface.call name arguments (← get).outside)

/-- Only this builtin changes its subject. -/
def pushed? (name : String) (subject : Value) (arguments : List Value) : Option Value :=
  match name, subject, arguments with
  | "push", .array items, [item] => some (.array (items ++ [item]))
  | _, _, _ => none

def bindAll (parameters : List (String × Value)) : List Variable :=
  (parameters.map fun entry => Variable.mk entry.1 entry.2 false).reverse

/-- A changed subject is kept only if it has a place. -/
def keep (way : Option Way) (changed : Option Value) : Run Unit :=
  match way, changed with
  | some way, some value => way.write value
  | _, _ => return ()

/-- A return is the end of a function like any other. -/
def untilReturn (body : Run Value) : Run (Except Stop Value) := do
  try
    let value ← body
    return .ok value
  catch stop =>
    match stop with
    | .returned value => return .ok value
    | stop => return .error stop

/-- A function starts with its parameters alone, and the caller finds its own scope unchanged. However
the function ends, its subject is handed back if it has changed. -/
def enter (parameters : List (String × Value)) (subject : Option Value) (body : Run Value) :
    Run (Except Stop Value × Option Value) := do
  let caller ← get
  set { caller with scope := bindAll parameters, subject, changed := false }
  let result ← untilReturn body
  let callee ← get
  set { callee with scope := caller.scope, subject := caller.subject, changed := caller.changed }
  return (result, if callee.changed then callee.subject else none)

def resume (result : Except Stop Value) : Run Value :=
  match result with
  | .ok value => return value
  | .error stop => throw stop

/-- This runs one round of a loop and says whether the loop goes on. -/
def round (body : Run Unit) : Run Bool := do
  try
    body
    return true
  catch stop =>
    match stop with
    | .left => return false
    | .skipped => return true
    | stop => throw stop

mutual

/-- The first argument bounds the steps that are taken, and the third counts the calls in progress. -/
def evaluate : Nat → Program → Nat → Expression → Run Value
  | 0, _, _, _ => throw .exhausted
  | fuel + 1, program, level, expression =>
      match expression with
      | .literal value => return value
      | .variable name => Way.baseValue (.variable name)
      | .self => Way.baseValue .subject
      | .text parts => do
          let values ← evaluateAll fuel program level parts
          return .string (String.join (values.map Value.display))
      | .array items => return .array (← evaluateAll fuel program level items)
      | .map entries => do
          let values ← evaluateAll fuel program level (entries.map Prod.snd)
          return .map (Json.sortMembers ((entries.map Prod.fst).zip values))
      | .negate operand => do Run.lift (negated (← evaluate fuel program level operand))
      | .affirm operand => do Run.lift (affirmed (← evaluate fuel program level operand))
      | .invert operand => do Run.lift (inverted (← evaluate fuel program level operand))
      | .binary operator left right => do
          let left ← evaluate fuel program level left
          let right ← evaluate fuel program level right
          Run.lift (operator.apply left right)
      | .both left right => do
          if ← condition fuel program level left then
            return .boolean (← condition fuel program level right)
          else return .boolean false
      | .either left right => do
          if ← condition fuel program level left then return .boolean true
          else return .boolean (← condition fuel program level right)
      | .call name arguments => do
          let values ← evaluateAll fuel program level arguments
          match program.find? name values.length with
          | some function =>
              let (result, _) ← callFunction fuel program level function values none
              resume result
          | none =>
              match arguments, values with
              | base :: _, subject :: rest =>
                  match pushed? name subject rest with
                  | some changed => do
                      let (_, way) ← findSubject fuel program level base
                      keep way (some changed)
                      return .unit
                  | none => callBuiltin name values
              | _, _ => callBuiltin name values
      | .method base name arguments => do
          let values ← evaluateAll fuel program level arguments
          let (subject, way) ← findSubject fuel program level base
          match program.find? name values.length with
          | some function =>
              let (result, changed) ← callFunction fuel program level function values (some subject)
              keep way changed
              resume result
          | none =>
              match pushed? name subject values with
              | some changed => do
                  keep way (some changed)
                  return .unit
              | none => callBuiltin name (subject :: values)
      | .field base name => do
          Run.lift (Way.readStep (← evaluate fuel program level base) (.field name))
      | .index base place => do
          let subject ← evaluate fuel program level base
          let key ← evaluate fuel program level place
          Run.lift (Way.readStep subject (.item key))
      | .block body => Run.inBlock (runBody fuel program level body)
      | .choose test yes no => do
          if ← condition fuel program level test then Run.inBlock (runBody fuel program level yes)
          else Run.inBlock (runBody fuel program level no)

def condition : Nat → Program → Nat → Expression → Run Bool
  | 0, _, _, _ => throw .exhausted
  | fuel + 1, program, level, expression => do
      match ← evaluate fuel program level expression with
      | .boolean value => return value
      | _ => Run.fail "a boolean is expected"

def evaluateAll : Nat → Program → Nat → List Expression → Run (List Value)
  | 0, _, _, _ => throw .exhausted
  | fuel + 1, program, level, expressions =>
      match expressions with
      | [] => return []
      | first :: rest => do
          let value ← evaluate fuel program level first
          let values ← evaluateAll fuel program level rest
          return value :: values

def callFunction : Nat → Program → Nat → Function → List Value → Option Value →
    Run (Except Stop Value × Option Value)
  | 0, _, _, _, _, _ => throw .exhausted
  | fuel + 1, program, level, function, values, subject =>
      if callLimit ≤ level then Run.fail "stack overflow"
      else
        enter (function.parameters.zip values) subject
          (runBody fuel program (level + 1) function.body)

/-- A subject that stands in a place can be changed there. -/
def findSubject : Nat → Program → Nat → Expression → Run (Value × Option Way)
  | 0, _, _, _ => throw .exhausted
  | fuel + 1, program, level, base => do
      if base.isPlace then
        let way ← findWay fuel program level base
        return (← way.read, some way)
      else return (← evaluate fuel program level base, none)

def findWay : Nat → Program → Nat → Expression → Run Way
  | 0, _, _, _ => throw .exhausted
  | fuel + 1, program, level, expression =>
      match expression with
      | .variable name => return ⟨.variable name, []⟩
      | .self => return ⟨.subject, []⟩
      | .field base name => do
          let way ← findWay fuel program level base
          return { way with steps := way.steps ++ [.field name] }
      | .index base place => do
          let way ← findWay fuel program level base
          let key ← evaluate fuel program level place
          return { way with steps := way.steps ++ [.item key] }
      | _ => Run.fail "not a place"

/-- The value of a body is the value of its last statement. -/
def runBody : Nat → Program → Nat → List Statement → Run Value
  | 0, _, _, _ => throw .exhausted
  | fuel + 1, program, level, body =>
      match body with
      | [] => return .unit
      | [last] => runStatement fuel program level last
      | first :: rest => do
          discard (runStatement fuel program level first)
          runBody fuel program level rest

def runStatement : Nat → Program → Nat → Statement → Run Value
  | 0, _, _, _ => throw .exhausted
  | fuel + 1, program, level, statement =>
      match statement with
      | .declare constant name value => do
          let value ← evaluate fuel program level value
          Run.push ⟨name, value, constant⟩
          return .unit
      | .assign target operator value => do
          let value ← evaluate fuel program level value
          let way ← findWay fuel program level target
          match operator with
          | none => way.write value
          | some operator => way.write (← Run.lift (operator.accumulate (← way.read) value))
          return .unit
      | .evaluate value => evaluate fuel program level value
      | .loop test body => do
          runWhile fuel program level test body
          return .unit
      | .forEach name source body => do
          match ← Run.lift (visits (← evaluate fuel program level source)) with
          | .listed items => runListed fuel program level name body items
          | .counted first count => runCounted fuel program level name body first count
          return .unit
      | .leave => throw .left
      | .skip => throw .skipped
      | .deliver value => do throw (.returned (← evaluate fuel program level value))
      | .raise value => do Run.fail (← evaluate fuel program level value).display

def runWhile : Nat → Program → Nat → Expression → List Statement → Run Unit
  | 0, _, _, _, _ => throw .exhausted
  | fuel + 1, program, level, test, body => do
      if ← condition fuel program level test then
        if ← round (Run.inBlock (discard (runBody fuel program level body))) then
          runWhile fuel program level test body

def runListed : Nat → Program → Nat → String → List Statement → List Value → Run Unit
  | 0, _, _, _, _, _ => throw .exhausted
  | fuel + 1, program, level, name, body, items =>
      match items with
      | [] => return ()
      | item :: rest => do
          let once : Run Unit := do
            Run.push ⟨name, item, false⟩
            discard (runBody fuel program level body)
          if ← round (Run.inBlock once) then runListed fuel program level name body rest

def runCounted : Nat → Program → Nat → String → List Statement → Int → Nat → Run Unit
  | 0, _, _, _, _, _, _ => throw .exhausted
  | fuel + 1, program, level, name, body, next, count =>
      match count with
      | 0 => return ()
      | count + 1 => do
          let once : Run Unit := do
            Run.push ⟨name, .integer (Int64.ofInt next), false⟩
            discard (runBody fuel program level body)
          if ← round (Run.inBlock once) then runCounted fuel program level name body (next + 1) count

end

/-- Scripts are taken not to end when they take more steps than this. -/
def stepLimit : Nat := 100000000

/-- A script ends with a value, an error, a panic of the engine, or not at all. -/
inductive Outcome where
  | value (value : Value)
  | failed (message : String)
  | panicked (message : String)
  | exhausted

def Outcome.ofRun (result : Except Stop Value) : Outcome :=
  match result with
  | .ok answer => .value answer
  | .error (.returned answer) => .value answer
  | .error (.failed message) => .failed message
  | .error (.panicked message) => .panicked message
  | .error .left => .failed "break outside of a loop"
  | .error .skipped => .failed "continue outside of a loop"
  | .error .exhausted => .exhausted

/-- The script sees the given variables only. -/
def Program.run (program : Program) (scope : List Variable) (outside : Outside) :
    Outcome × Outside :=
  let (result, machine) :=
    ((runBody stepLimit program 0 program.body).run).run ⟨scope, none, false, outside⟩
  (.ofRun result, machine.outside)

/-- A hook is found by name and called with all its arguments; `this` keeps what the hook made of it. -/
def Program.callHook (program : Program) (name : String) (arguments : List Value) (subject : Value)
    (outside : Outside) : Outcome × Value × Outside :=
  match program.find? name arguments.length with
  | none => (.failed s!"function not found: {name}", subject, outside)
  | some function =>
      let (result, machine) :=
        ((runBody stepLimit program 1 function.body).run).run
          ⟨bindAll (function.parameters.zip arguments), some subject, false, outside⟩
      (.ofRun result, machine.subject.getD subject, machine.outside)

end ScriptHost.Script
