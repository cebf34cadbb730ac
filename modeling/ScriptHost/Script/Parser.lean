/-
This file reads programs from tokens.
-/
import ScriptHost.Script.Program
import ScriptHost.Script.Token

namespace ScriptHost.Script.Parser

def keywords : List String :=
  ["let", "const", "if", "else", "switch", "do", "while", "until", "loop", "for", "in", "continue",
    "break", "return", "throw", "try", "catch", "import", "export", "as", "global", "fn", "private"]

/-- These words are kept from being names. -/
def reserved : List String :=
  ["var", "static", "is", "goto", "exit", "match", "case", "default", "void", "null", "nil", "spawn",
    "thread", "go", "sync", "async", "await", "yield", "new", "use", "with", "module", "package",
    "super", "protected", "public", "shared", "each", "then", "unless"]

/-- These names can be called but not used as variables. -/
def callOnly : List String :=
  ["print", "debug", "type_of", "eval", "Fn", "call", "curry", "is_shared", "is_def_fn", "is_def_var"]

/-- A name holds a letter before any digit. -/
def isName (word : String) : Bool :=
  (match (word.toList.dropWhile (· == '_')).head? with
    | some first => !Token.isDigit first
    | none => false) &&
  !keywords.contains word && !reserved.contains word && word != "true" && word != "false" &&
    word != "this"

def isVariable (word : String) : Bool :=
  isName word && !callOnly.contains word

/-- Operators that bind more closely have the larger number. -/
def binaryOperator? : Token → Option (Nat × (Expression → Expression → Expression))
  | .symbol "||" => some (30, .either)
  | .symbol "&&" => some (60, .both)
  | .symbol "==" => some (90, .binary .equal)
  | .symbol "!=" => some (90, .binary .unequal)
  | .word "in" => some (110, .binary .within)
  | .symbol "<" => some (130, .binary .less)
  | .symbol "<=" => some (130, .binary .lessEqual)
  | .symbol ">" => some (130, .binary .greater)
  | .symbol ">=" => some (130, .binary .greaterEqual)
  | .symbol ".." => some (140, .binary .upTo)
  | .symbol "..=" => some (140, .binary .through)
  | .symbol "+" => some (150, .binary .add)
  | .symbol "-" => some (150, .binary .subtract)
  | .symbol "*" => some (180, .binary .multiply)
  | .symbol "/" => some (180, .binary .divide)
  | .symbol "%" => some (180, .binary .remainder)
  | _ => none

def assignment? : Token → Option (Option Operator)
  | .symbol "=" => some none
  | .symbol "+=" => some (some .add)
  | .symbol "-=" => some (some .subtract)
  | .symbol "*=" => some (some .multiply)
  | .symbol "/=" => some (some .divide)
  | .symbol "%=" => some (some .remainder)
  | _ => none

def opening : String := "\x7b"

def closing : String := "\x7d"

def expect (mark : String) : List Token → Option (List Token)
  | .symbol found :: rest => if found = mark then some rest else none
  | _ => none

/-- A block or a semicolon is no condition. -/
def startsExpression : List Token → Bool
  | .symbol ";" :: _ => false
  | .symbol mark :: _ => mark != opening
  | _ => true

/-- After such a statement no semicolon is needed. -/
def endsItself : Statement → Bool
  | .evaluate (.block _) => true
  | .evaluate (.choose ..) => true
  | .loop .. => true
  | .forEach .. => true
  | _ => false

mutual

def expression : Nat → Nat → List Token → Option (Expression × List Token)
  | 0, _, _ => none
  | fuel + 1, limit, tokens => do
      let (left, rest) ← unary fuel tokens
      operations fuel limit left rest

def operations : Nat → Nat → Expression → List Token → Option (Expression × List Token)
  | 0, _, _, _ => none
  | fuel + 1, limit, left, tokens =>
      match tokens with
      | [] => some (left, [])
      | token :: rest =>
          match binaryOperator? token with
          | none => some (left, tokens)
          | some (binding, build) =>
              if binding ≤ limit then some (left, tokens)
              else do
                let (right, rest) ← expression fuel binding rest
                operations fuel limit (build left right) rest

def unary : Nat → List Token → Option (Expression × List Token)
  | 0, _ => none
  | fuel + 1, tokens =>
      match tokens with
      | .symbol "-" :: rest => (unary fuel rest).map fun (operand, rest) => (.negate operand, rest)
      | .symbol "+" :: rest => (unary fuel rest).map fun (operand, rest) => (.affirm operand, rest)
      | .symbol "!" :: rest => (unary fuel rest).map fun (operand, rest) => (.invert operand, rest)
      | _ => do
          let (base, rest) ← primary fuel tokens
          postfixes fuel base rest

def postfixes : Nat → Expression → List Token → Option (Expression × List Token)
  | 0, _, _ => none
  | fuel + 1, base, tokens =>
      match tokens with
      | .symbol "." :: .word name :: .symbol "(" :: rest =>
          if isName name then do
            let (given, rest) ← items fuel ")" rest
            postfixes fuel (.method base name given) rest
          else none
      | .symbol "." :: .word name :: rest =>
          if isVariable name then postfixes fuel (.field base name) rest else none
      | .symbol "." :: _ => none
      | .symbol "[" :: rest => do
          let (place, rest) ← expression fuel 0 rest
          let rest ← expect "]" rest
          postfixes fuel (.index base place) rest
      | _ => some (base, tokens)

def primary : Nat → List Token → Option (Expression × List Token)
  | 0, _ => none
  | fuel + 1, tokens =>
      match tokens with
      | .integer value :: rest => some (.literal (.integer value), rest)
      | .float value :: rest => some (.literal (.float value), rest)
      | .quoted value :: rest => some (.literal (.string value), rest)
      | .character value :: rest => some (.literal (.character value), rest)
      | .textBegins :: rest => (pieces fuel rest).map fun (parts, rest) => (.text parts, rest)
      | .symbol "(" :: .symbol ")" :: rest => some (.literal .unit, rest)
      | .symbol "(" :: rest => do
          let (inner, rest) ← expression fuel 0 rest
          let rest ← expect ")" rest
          return (inner, rest)
      | .symbol "[" :: rest => (items fuel "]" rest).map fun (items, rest) => (.array items, rest)
      | .symbol "#\x7b" :: rest => (entries fuel rest).map fun (entries, rest) => (.map entries, rest)
      | .symbol "\x7b" :: rest => (statements fuel rest).map fun (body, rest) => (.block body, rest)
      | .word "true" :: rest => some (.literal (.boolean true), rest)
      | .word "false" :: rest => some (.literal (.boolean false), rest)
      | .word "this" :: rest => some (.self, rest)
      | .word "if" :: rest => choice fuel rest
      | .word name :: .symbol "(" :: rest =>
          if isName name then do
            let (given, rest) ← items fuel ")" rest
            return (.call name given, rest)
          else none
      | .word name :: rest => if isVariable name then some (.variable name, rest) else none
      | _ => none

/-- A comma may follow the last item. -/
def items : Nat → String → List Token → Option (List Expression × List Token)
  | 0, _, _ => none
  | fuel + 1, close, tokens =>
      match expect close tokens with
      | some rest => some ([], rest)
      | none => do
          let (item, rest) ← expression fuel 0 tokens
          match rest with
          | .symbol "," :: rest =>
              (items fuel close rest).map fun (items, rest) => (item :: items, rest)
          | rest => (expect close rest).map fun rest => ([item], rest)

def entries : Nat → List Token → Option (List (String × Expression) × List Token)
  | 0, _ => none
  | fuel + 1, tokens =>
      match expect closing tokens with
      | some rest => some ([], rest)
      | none => do
          let (key, rest) ← match tokens with
            | .word key :: .symbol ":" :: rest => if isVariable key then some (key, rest) else none
            | .quoted key :: .symbol ":" :: rest => some (key, rest)
            | _ => none
          let (item, rest) ← expression fuel 0 rest
          match rest with
          | .symbol "," :: rest =>
              (entries fuel rest).map fun (entries, rest) => ((key, item) :: entries, rest)
          | rest => (expect closing rest).map fun rest => ([(key, item)], rest)

def pieces : Nat → List Token → Option (List Expression × List Token)
  | 0, _ => none
  | fuel + 1, tokens =>
      match tokens with
      | .textEnds :: rest => some ([], rest)
      | .piece value :: rest =>
          (pieces fuel rest).map fun (parts, rest) => (.literal (.string value) :: parts, rest)
      | .holeBegins :: rest => do
          let (body, rest) ← hole fuel rest
          let (parts, rest) ← pieces fuel rest
          return (.block body :: parts, rest)
      | _ => none

/-- The statements of a hole end where the hole ends. -/
def hole : Nat → List Token → Option (List Statement × List Token)
  | 0, _ => none
  | fuel + 1, tokens =>
      match tokens with
      | .holeEnds :: rest => some ([], rest)
      | .symbol ";" :: rest => hole fuel rest
      | _ => do
          let (first, rest) ← statement fuel tokens
          match rest with
          | .holeEnds :: rest => return ([first], rest)
          | .symbol ";" :: rest =>
              let (others, rest) ← hole fuel rest
              return (first :: others, rest)
          | rest =>
              if endsItself first then
                let (others, rest) ← hole fuel rest
                return (first :: others, rest)
              else none

/-- The opening brace has been read. -/
def statements : Nat → List Token → Option (List Statement × List Token)
  | 0, _ => none
  | fuel + 1, tokens =>
      match tokens with
      | .symbol "\x7d" :: rest => some ([], rest)
      | .symbol ";" :: rest => statements fuel rest
      | _ => do
          let (first, rest) ← statement fuel tokens
          match rest with
          | .symbol "\x7d" :: rest => return ([first], rest)
          | .symbol ";" :: rest =>
              let (others, rest) ← statements fuel rest
              return (first :: others, rest)
          | rest =>
              if endsItself first then
                let (others, rest) ← statements fuel rest
                return (first :: others, rest)
              else none

def braced : Nat → List Token → Option (List Statement × List Token)
  | 0, _ => none
  | fuel + 1, tokens => do
      let rest ← expect opening tokens
      statements fuel rest

def choice : Nat → List Token → Option (Expression × List Token)
  | 0, _ => none
  | fuel + 1, tokens =>
      if ¬ startsExpression tokens then none
      else do
        let (condition, rest) ← expression fuel 0 tokens
        let (yes, rest) ← braced fuel rest
        match rest with
        | .word "else" :: .word "if" :: rest =>
            let (other, rest) ← choice fuel rest
            return (.choose condition yes [.evaluate other], rest)
        | .word "else" :: rest =>
            let (no, rest) ← braced fuel rest
            return (.choose condition yes no, rest)
        | rest => return (.choose condition yes [], rest)

def statement : Nat → List Token → Option (Statement × List Token)
  | 0, _ => none
  | fuel + 1, tokens =>
      match tokens with
      | .word "let" :: rest => declaration fuel false rest
      | .word "const" :: rest => declaration fuel true rest
      | .word "while" :: rest =>
          if ¬ startsExpression rest then none
          else do
            let (condition, rest) ← expression fuel 0 rest
            let (body, rest) ← braced fuel rest
            return (.loop condition body, rest)
      | .word "loop" :: rest =>
          (braced fuel rest).map fun (body, rest) => (.loop (.literal (.boolean true)) body, rest)
      | .word "for" :: .word name :: .word "in" :: rest =>
          if ¬ isVariable name ∨ ¬ startsExpression rest then none
          else do
            let (source, rest) ← expression fuel 0 rest
            let (body, rest) ← braced fuel rest
            return (.forEach name source body, rest)
      | .word "break" :: rest => some (.leave, rest)
      | .word "continue" :: rest => some (.skip, rest)
      | .word "return" :: rest => (operand fuel rest).map fun (value, rest) => (.deliver value, rest)
      | .word "throw" :: rest => (operand fuel rest).map fun (value, rest) => (.raise value, rest)
      | .word "if" :: rest =>
          (choice fuel rest).map fun (choice, rest) => (.evaluate choice, rest)
      | .symbol "\x7b" :: rest =>
          (statements fuel rest).map fun (body, rest) => (.evaluate (.block body), rest)
      | _ => do
          let (target, rest) ← expression fuel 0 tokens
          match rest with
          | [] => return (.evaluate target, [])
          | token :: after =>
              match assignment? token with
              | none => return (.evaluate target, rest)
              | some operator =>
                  let (value, rest) ← expression fuel 0 after
                  return (.assign target operator value, rest)

/-- A variable without a value holds the unit. -/
def declaration : Nat → Bool → List Token → Option (Statement × List Token)
  | 0, _, _ => none
  | fuel + 1, constant, tokens =>
      match tokens with
      | .word name :: .symbol "=" :: rest =>
          if isVariable name then
            (expression fuel 0 rest).map fun (value, rest) => (.declare constant name value, rest)
          else none
      | .word name :: rest =>
          if isVariable name then some (.declare constant name (.literal .unit), rest) else none
      | _ => none

/-- The value of a return or a throw may be left out. -/
def operand : Nat → List Token → Option (Expression × List Token)
  | 0, _ => none
  | fuel + 1, tokens =>
      match tokens with
      | [] => some (.literal .unit, [])
      | .symbol ";" :: _ => some (.literal .unit, tokens)
      | .symbol "\x7d" :: _ => some (.literal .unit, tokens)
      | .holeEnds :: _ => some (.literal .unit, tokens)
      | _ => expression fuel 0 tokens

end

/-- A comma may follow the last parameter. -/
def parameters : List Token → Option (List String × List Token)
  | .symbol ")" :: rest => some ([], rest)
  | .word name :: .symbol ")" :: rest => if isVariable name then some ([name], rest) else none
  | .word name :: .symbol "," :: rest =>
      if isVariable name then
        (parameters rest).map fun (names, rest) => (name :: names, rest)
      else none
  | _ => none

/-- Functions stand between the statements of the script. -/
def script : Nat → List Token → Option Program
  | 0, _ => none
  | fuel + 1, tokens =>
      match tokens with
      | [] => some ⟨[], []⟩
      | .symbol ";" :: rest => script fuel rest
      | .word "fn" :: .word name :: .symbol "(" :: rest =>
          if ¬ isName name then none
          else do
            let (names, rest) ← parameters rest
            let (body, rest) ← braced fuel rest
            let program ← script fuel rest
            return ⟨⟨name, names, body⟩ :: program.functions, program.body⟩
      | _ => do
          let (first, rest) ← statement fuel tokens
          match rest with
          | [] => return ⟨[], [first]⟩
          | .symbol ";" :: rest =>
              let program ← script fuel rest
              return ⟨program.functions, first :: program.body⟩
          | rest =>
              if endsItself first then
                let program ← script fuel rest
                return ⟨program.functions, first :: program.body⟩
              else none

end Parser

/-- No path through the parser takes more than eight steps for a token. -/
def parse? (tokens : List Token) : Option Program :=
  Parser.script (8 * tokens.length + 8) tokens

/-- This compiles the text of a script. -/
def compile? (text : List Char) : Option Program := do
  let tokens ← tokens? text
  let program ← parse? tokens
  if program.sound then some program.tidy else none

end ScriptHost.Script
