/-
This file holds compiled scripts and the rules that a script must keep to be compiled.
-/
import ScriptHost.Script.Value

namespace ScriptHost.Script

inductive Operator where
  | add | subtract | multiply | divide | remainder
  | equal | unequal | less | lessEqual | greater | greaterEqual
  | within | through | upTo
  deriving DecidableEq, Repr

mutual

inductive Expression where
  | literal (value : Value)
  | variable (name : String)
  | self
  | text (parts : List Expression)
  | array (items : List Expression)
  | map (entries : List (String × Expression))
  | negate (operand : Expression)
  | affirm (operand : Expression)
  | invert (operand : Expression)
  | binary (operator : Operator) (left right : Expression)
  | both (left right : Expression)
  | either (left right : Expression)
  | call (name : String) (arguments : List Expression)
  | method (base : Expression) (name : String) (arguments : List Expression)
  | field (base : Expression) (name : String)
  | index (base : Expression) (place : Expression)
  | block (body : List Statement)
  | choose (condition : Expression) (yes no : List Statement)

inductive Statement where
  | declare (constant : Bool) (name : String) (value : Expression)
  | assign (target : Expression) (operator : Option Operator) (value : Expression)
  | evaluate (value : Expression)
  | loop (condition : Expression) (body : List Statement)
  | forEach (name : String) (source : Expression) (body : List Statement)
  | leave
  | skip
  | deliver (value : Expression)
  | raise (value : Expression)

end

structure Function where
  name : String
  parameters : List String
  body : List Statement

structure Program where
  functions : List Function
  body : List Statement

namespace Expression

/-- Only a variable, `this`, and parts of them can be assigned to. -/
def isPlace : Expression → Bool
  | .variable _ => true
  | .self => true
  | .field base _ => base.isPlace
  | .index base _ => base.isPlace
  | _ => false

mutual

/-- A pure expression only looks at values. -/
def isPure : Expression → Bool
  | .literal _ => true
  | .variable _ => true
  | .text parts => allPure parts
  | .array items => allPure items
  | .map entries => entriesPure entries
  | .both left right => left.isPure && right.isPure
  | .either left right => left.isPure && right.isPure
  | .block body => bodyPure body
  | .choose condition yes no => condition.isPure && bodyPure yes && bodyPure no
  | _ => false

def allPure : List Expression → Bool
  | [] => true
  | item :: rest => item.isPure && allPure rest

def entriesPure : List (String × Expression) → Bool
  | [] => true
  | (_, item) :: rest => item.isPure && entriesPure rest

def statementPure : Statement → Bool
  | .evaluate value => value.isPure
  | _ => false

def bodyPure : List Statement → Bool
  | [] => true
  | statement :: rest => statementPure statement && bodyPure rest

end

end Expression

/-- A pure statement is left out unless its value is the value of the block. -/
def dropPure (keepLast : Bool) : List Statement → List Statement
  | [] => []
  | [last] => if ¬ keepLast ∧ Expression.statementPure last then [] else [last]
  | statement :: next :: rest =>
      if Expression.statementPure statement then dropPure keepLast (next :: rest)
      else statement :: dropPure keepLast (next :: rest)

mutual

def Expression.tidy (keepLast : Bool) : Expression → Expression
  | .text parts => .text (tidyAll parts)
  | .array items => .array (tidyAll items)
  | .map entries => .map (tidyEntries entries)
  | .negate operand => .negate (operand.tidy true)
  | .affirm operand => .affirm (operand.tidy true)
  | .invert operand => .invert (operand.tidy true)
  | .binary operator left right => .binary operator (left.tidy true) (right.tidy true)
  | .both left right => .both (left.tidy true) (right.tidy true)
  | .either left right => .either (left.tidy true) (right.tidy true)
  | .call name arguments => .call name (tidyAll arguments)
  | .method base name arguments => .method (base.tidy true) name (tidyAll arguments)
  | .field base name => .field (base.tidy true) name
  | .index base place => .index (base.tidy true) (place.tidy true)
  | .block body => .block (dropPure keepLast (tidyBody keepLast body))
  | .choose condition yes no =>
      .choose (condition.tidy true) (dropPure keepLast (tidyBody keepLast yes))
        (dropPure keepLast (tidyBody keepLast no))
  | other => other

def tidyAll : List Expression → List Expression
  | [] => []
  | item :: rest => item.tidy true :: tidyAll rest

def tidyEntries : List (String × Expression) → List (String × Expression)
  | [] => []
  | (key, item) :: rest => (key, item.tidy true) :: tidyEntries rest

/-- The value of a loop body is not used, so none of its statements is kept for its value. -/
def Statement.tidy (keepLast : Bool) : Statement → Statement
  | .declare constant name value => .declare constant name (value.tidy true)
  | .assign target operator value => .assign (target.tidy true) operator (value.tidy true)
  | .evaluate value => .evaluate (value.tidy keepLast)
  | .loop condition body =>
      .loop (condition.tidy true) (dropPure false (tidyBody false body))
  | .forEach name source body =>
      .forEach name (source.tidy true) (dropPure false (tidyBody false body))
  | .deliver value => .deliver (value.tidy true)
  | .raise value => .raise (value.tidy true)
  | other => other

def tidyBody (keepLast : Bool) : List Statement → List Statement
  | [] => []
  | statement :: rest => statement.tidy keepLast :: tidyBody keepLast rest

end

def tidyBlock (body : List Statement) : List Statement :=
  dropPure true (tidyBody true body)

/-- The names in scope, latest first, with their constancy. -/
abbrev Names := List (String × Bool)

def Names.isConstant (names : Names) (name : String) : Bool :=
  match names.find? fun entry => entry.1 == name with
  | some (_, constant) => constant
  | none => false

mutual

/-- This checks that no constant of the script is assigned and that loops alone are left early. -/
def Expression.sound (names : Names) (inLoop : Bool) : Expression → Bool
  | .text parts => allSound names inLoop parts
  | .array items => allSound names inLoop items
  | .map entries => entriesSound names inLoop entries && (entries.map Prod.fst).Nodup
  | .negate operand => operand.sound names inLoop
  | .affirm operand => operand.sound names inLoop
  | .invert operand => operand.sound names inLoop
  | .binary _ left right => left.sound names inLoop && right.sound names inLoop
  | .both left right => left.sound names inLoop && right.sound names inLoop
  | .either left right => left.sound names inLoop && right.sound names inLoop
  | .call _ arguments => allSound names inLoop arguments
  | .method base _ arguments => base.sound names inLoop && allSound names inLoop arguments
  | .field base _ => base.sound names inLoop
  | .index base place => base.sound names inLoop && place.sound names inLoop
  | .block body => bodySound names inLoop body
  | .choose condition yes no =>
      condition.sound names inLoop && bodySound names inLoop yes && bodySound names inLoop no
  | _ => true

def allSound (names : Names) (inLoop : Bool) : List Expression → Bool
  | [] => true
  | item :: rest => item.sound names inLoop && allSound names inLoop rest

def entriesSound (names : Names) (inLoop : Bool) : List (String × Expression) → Bool
  | [] => true
  | (_, item) :: rest => item.sound names inLoop && entriesSound names inLoop rest

def Statement.sound (names : Names) (inLoop : Bool) : Statement → Bool
  | .declare _ _ value => value.sound names inLoop
  | .assign target _ value =>
      target.isPlace && target.sound names inLoop && value.sound names inLoop &&
        (match target with
          | .variable name => !names.isConstant name
          | _ => true)
  | .evaluate value => value.sound names inLoop
  | .loop condition body => condition.sound names inLoop && bodySound names true body
  | .forEach name source body =>
      source.sound names inLoop && bodySound ((name, false) :: names) true body
  | .leave => inLoop
  | .skip => inLoop
  | .deliver value => value.sound names inLoop
  | .raise value => value.sound names inLoop

def bodySound (names : Names) (inLoop : Bool) : List Statement → Bool
  | [] => true
  | statement :: rest =>
      statement.sound names inLoop &&
        bodySound
          (match statement with
            | .declare constant name _ => (name, constant) :: names
            | _ => names)
          inLoop rest

end

/-- A function sees only its parameters. -/
def Function.sound (function : Function) : Bool :=
  function.parameters.Nodup &&
    bodySound (function.parameters.map fun name => (name, false)) false function.body

def Function.signature (function : Function) : String × Nat :=
  (function.name, function.parameters.length)

/-- Two functions of one name must differ in the number of their parameters. -/
def Program.sound (program : Program) : Bool :=
  (program.functions.map Function.signature).Nodup && program.functions.all Function.sound &&
    bodySound [] false program.body

def Function.tidy (function : Function) : Function :=
  { function with body := tidyBlock function.body }

def Program.tidy (program : Program) : Program :=
  ⟨program.functions.map Function.tidy, tidyBlock program.body⟩

def Program.defines (program : Program) (name : String) : Bool :=
  program.functions.any fun function => function.name == name

def Program.find? (program : Program) (name : String) (count : Nat) : Option Function :=
  program.functions.find? fun function => function.signature == (name, count)

end ScriptHost.Script
