/-
This file writes JSON values over several lines.
-/
import ScriptHost.Json.Value

namespace ScriptHost.Json.Value

/-- A deeper level is set in by two more blanks. -/
def newLine (level : Nat) : List Char :=
  '\n' :: List.replicate (2 * level) ' '

mutual

/-- An empty array or object stays on its line. -/
def prettyChars (level : Nat) : Value → List Char
  | .array (item :: rest) =>
      '[' :: (newLine (level + 1) ++ item.prettyChars (level + 1) ++
        prettyItems (level + 1) rest ++ newLine level ++ [']'])
  | .object ((name, item) :: rest) =>
      '\x7b' :: (newLine (level + 1) ++ quote name ++ [':', ' '] ++ item.prettyChars (level + 1) ++
        prettyMembers (level + 1) rest ++ newLine level ++ ['\x7d'])
  | value => value.chars

def prettyItems (level : Nat) : List Value → List Char
  | [] => []
  | item :: rest =>
      ',' :: (newLine level ++ item.prettyChars level ++ prettyItems level rest)

def prettyMembers (level : Nat) : List (String × Value) → List Char
  | [] => []
  | (name, item) :: rest =>
      ',' :: (newLine level ++ quote name ++ [':', ' '] ++ item.prettyChars level ++
        prettyMembers level rest)

end

def pretty (value : Value) : String :=
  String.ofList (value.prettyChars 0)

end ScriptHost.Json.Value
