/-
This file reads the command line.
-/
import ScriptHost.Config

namespace ScriptHost.CommandLine

open File (Pathname)

/-- Every field holds the value of the last flag that set it. -/
structure Options where
  config : Option Pathname
  fixture : Option Pathname
  ticks : Option UInt64
  scriptRoot : Option Pathname
  hotReload : Option Bool
  logLevel : Option String
  deriving DecidableEq, Repr

inductive NumberError where
  | empty
  | invalidDigit
  | tooLarge
  deriving DecidableEq, Repr

def NumberError.message : NumberError → String
  | .empty => "cannot parse integer from empty string"
  | .invalidDigit => "invalid digit found in string"
  | .tooLarge => "number too large to fit in target type"

inductive Error where
  | notAFlag (argument : String)
  | missingValue (flag : String)
  | badTicks (value : String) (cause : NumberError)
  | badSwitch (value : String)
  | unknownFlag (flag : String)
  deriving DecidableEq, Repr

/-- The cause of an error follows it after a colon. -/
def Error.message : Error → String
  | .notAFlag argument => s!"Unexpected argument '{argument}'. Flags take the form --name value."
  | .missingValue flag => s!"Expected a value after '{flag}'"
  | .badTicks value cause => s!"Invalid ticks '{value}': {cause.message}"
  | .badSwitch value => s!"Invalid hot-reload value '{value}'. Use on/off or true/false."
  | .unknownFlag flag =>
      s!"Unknown flag '{flag}'. Supported flags: --config, --fixture, --ticks, --scripts, --hot-reload, --log."

def Options.none : Options :=
  ⟨Option.none, Option.none, Option.none, Option.none, Option.none, Option.none⟩

/-- A wrong digit is noticed before an overflow at the same place. -/
def readDigits : Nat → List Char → Except NumberError UInt64
  | value, [] => .ok (UInt64.ofNat value)
  | value, digit :: rest =>
      if ¬ ('0' ≤ digit ∧ digit ≤ '9') then .error .invalidDigit
      else
        let next := value * 10 + (digit.toNat - 48)
        if next < 0x10000000000000000 then readDigits next rest else .error .tooLarge

/-- One plus sign may stand before the digits. -/
def readCount (text : String) : Except NumberError UInt64 :=
  match text.toList with
  | [] => .error .empty
  | ['+'] => .error .invalidDigit
  | '+' :: digits => readDigits 0 digits
  | digits => readDigits 0 digits

def lowerAscii (text : String) : String :=
  String.ofList (text.toList.map Char.toLower)

def switch? (word : String) : Option Bool :=
  if word ∈ ["1", "true", "on", "yes"] then some true
  else if word ∈ ["0", "false", "off", "no"] then some false
  else Option.none

def readSwitch (value : String) : Except Error Bool :=
  match switch? (lowerAscii value) with
  | some setting => .ok setting
  | Option.none => .error (.badSwitch (lowerAscii value))

def flagKey (flag : String) : Option String :=
  match flag.toList with
  | '-' :: '-' :: key => some (String.ofList key)
  | _ => Option.none

def Options.set (options : Options) (flag key value : String) : Except Error Options :=
  match key with
  | "config" => .ok { options with config := some ⟨value⟩ }
  | "fixture" => .ok { options with fixture := some ⟨value⟩ }
  | "ticks" =>
      match readCount value with
      | .ok ticks => .ok { options with ticks := some ticks }
      | .error cause => .error (.badTicks value cause)
  | "scripts" => .ok { options with scriptRoot := some ⟨value⟩ }
  | "hot-reload" =>
      match readSwitch value with
      | .ok setting => .ok { options with hotReload := some setting }
      | .error error => .error error
  | "log" => .ok { options with logLevel := some value }
  | _ => .error (.unknownFlag flag)

def parsePairs (options : Options) : List String → Except Error Options
  | [] => .ok options
  | [flag] =>
      match flagKey flag with
      | Option.none => .error (.notAFlag flag)
      | some _ => .error (.missingValue flag)
  | flag :: value :: rest =>
      match flagKey flag with
      | Option.none => .error (.notAFlag flag)
      | some key =>
          match options.set flag key value with
          | .error error => .error error
          | .ok options => parsePairs options rest

/-- The first argument is the name of the program. -/
def parse (arguments : List String) : Except Error Options :=
  parsePairs .none arguments.tail

def Options.overrides (options : Options) : Overrides :=
  ⟨options.scriptRoot, Option.none, options.hotReload, options.logLevel⟩

end ScriptHost.CommandLine
