/-
This file reads a JSON text into its written form. No part of the form has been given a value yet, so
a part that nobody asks for may hold an escape that names no character or a number out of range.
-/

namespace ScriptHost.Json

/-- A numeral is kept as it is written. -/
structure Numeral where
  negative : Bool
  whole : List Char
  fraction : List Char
  exponent : Option (Bool × List Char)
  deriving DecidableEq, Repr

/-- A text without a value holds half of a surrogate pair. -/
inductive Form where
  | null
  | boolean (value : Bool)
  | number (numeral : Numeral)
  | string (text : Option String)
  | array (items : List Form)
  | object (members : List (Option String × Form))
  deriving Repr

namespace Form

def isSpace (value : Char) : Bool :=
  value == ' ' || value == '\n' || value == '\t' || value == '\r'

def skipSpace : List Char → List Char
  | value :: rest => if isSpace value then skipSpace rest else value :: rest
  | [] => []

def isDigit (value : Char) : Bool :=
  '0' ≤ value && value ≤ '9'

def hexDigit? (value : Char) : Option Nat :=
  if isDigit value then some (value.toNat - 48)
  else if 'a' ≤ value ∧ value ≤ 'f' then some (value.toNat - 87)
  else if 'A' ≤ value ∧ value ≤ 'F' then some (value.toNat - 55)
  else none

/-- A string is a row of characters and of code units given by number. -/
inductive TextUnit where
  | plain (value : Char)
  | code (unit : Nat)
  deriving DecidableEq, Repr

def isHighHalf (unit : Nat) : Bool :=
  0xD800 ≤ unit && unit < 0xDC00

def isLowHalf (unit : Nat) : Bool :=
  0xDC00 ≤ unit && unit < 0xE000

/-- A high half must be followed at once by a low half, and no low half stands alone. -/
def resolve : List TextUnit → Option (List Char)
  | [] => some []
  | .plain value :: rest => (resolve rest).map (value :: ·)
  | .code high :: .code low :: rest =>
      if isHighHalf high then
        if isLowHalf low then
          (resolve rest).map
            (Char.ofNat (0x10000 + (high - 0xD800) * 1024 + (low - 0xDC00)) :: ·)
        else none
      else if isLowHalf high then none
      else (resolve (.code low :: rest)).map (Char.ofNat high :: ·)
  | .code unit :: rest =>
      if isHighHalf unit || isLowHalf unit then none
      else (resolve rest).map (Char.ofNat unit :: ·)

def escape? : Char → Option Char
  | '"' => some '"'
  | '\\' => some '\\'
  | '/' => some '/'
  | 'b' => some (Char.ofNat 8)
  | 'f' => some (Char.ofNat 12)
  | 'n' => some '\n'
  | 'r' => some '\r'
  | 't' => some '\t'
  | _ => none

/-- This reads up to the closing quote; the opening quote has been read. -/
def readUnits : List Char → Option (List TextUnit × List Char)
  | [] => none
  | '"' :: rest => some ([], rest)
  | '\\' :: 'u' :: first :: second :: third :: fourth :: rest => do
      let one ← hexDigit? first
      let two ← hexDigit? second
      let three ← hexDigit? third
      let four ← hexDigit? fourth
      let (units, after) ← readUnits rest
      return (.code (((one * 16 + two) * 16 + three) * 16 + four) :: units, after)
  | '\\' :: value :: rest => do
      let meant ← escape? value
      let (units, after) ← readUnits rest
      return (.plain meant :: units, after)
  | value :: rest =>
      if value.toNat < 0x20 || value == '\\' then none
      else do
        let (units, after) ← readUnits rest
        return (.plain value :: units, after)

def readString (text : List Char) : Option (Option String × List Char) := do
  let (units, rest) ← readUnits text
  return ((resolve units).map String.ofList, rest)

def readExponent (text : List Char) : Option (Option (Bool × List Char) × List Char) :=
  match text with
  | mark :: rest =>
      if mark == 'e' || mark == 'E' then
        let (negative, digits) : Bool × List Char := match rest with
          | '+' :: digits => (false, digits)
          | '-' :: digits => (true, digits)
          | digits => (false, digits)
        if (digits.takeWhile isDigit).isEmpty then none
        else some (some (negative, digits.takeWhile isDigit), digits.dropWhile isDigit)
      else some (none, text)
  | [] => some (none, [])

def readFraction (text : List Char) : Option (List Char × List Char) :=
  match text with
  | '.' :: digits =>
      if (digits.takeWhile isDigit).isEmpty then none
      else some (digits.takeWhile isDigit, digits.dropWhile isDigit)
  | _ => some ([], text)

/-- A zero is never followed by a further digit. -/
def readWhole : List Char → Option (List Char × List Char)
  | '0' :: rest => some (['0'], rest)
  | text =>
      if (text.takeWhile isDigit).isEmpty then none
      else some (text.takeWhile isDigit, text.dropWhile isDigit)

def readNumeral (text : List Char) : Option (Numeral × List Char) := do
  let (negative, unsigned) : Bool × List Char := match text with
    | '-' :: rest => (true, rest)
    | rest => (false, rest)
  let (whole, afterWhole) ← readWhole unsigned
  let (fraction, afterFraction) ← readFraction afterWhole
  let (exponent, rest) ← readExponent afterFraction
  return (⟨negative, whole, fraction, exponent⟩, rest)

mutual

def readValue : Nat → List Char → Option (Form × List Char)
  | 0, _ => none
  | fuel + 1, text =>
      match skipSpace text with
      | 'n' :: 'u' :: 'l' :: 'l' :: rest => some (.null, rest)
      | 't' :: 'r' :: 'u' :: 'e' :: rest => some (.boolean true, rest)
      | 'f' :: 'a' :: 'l' :: 's' :: 'e' :: rest => some (.boolean false, rest)
      | '"' :: rest => (readString rest).map fun (text, rest) => (.string text, rest)
      | '[' :: rest =>
          match skipSpace rest with
          | ']' :: rest => some (.array [], rest)
          | rest => (readItems fuel rest).map fun (items, rest) => (.array items, rest)
      | '\x7b' :: rest =>
          match skipSpace rest with
          | '\x7d' :: rest => some (.object [], rest)
          | rest => (readMembers fuel rest).map fun (members, rest) => (.object members, rest)
      | rest => (readNumeral rest).map fun (numeral, rest) => (.number numeral, rest)

def readItems : Nat → List Char → Option (List Form × List Char)
  | 0, _ => none
  | fuel + 1, text =>
      match readValue fuel text with
      | none => none
      | some (item, rest) =>
          match skipSpace rest with
          | ',' :: rest => (readItems fuel rest).map fun (items, rest) => (item :: items, rest)
          | ']' :: rest => some ([item], rest)
          | _ => none

def readMembers : Nat → List Char → Option (List (Option String × Form) × List Char)
  | 0, _ => none
  | fuel + 1, text =>
      match skipSpace text with
      | '"' :: rest =>
          match readString rest with
          | none => none
          | some (name, rest) =>
              match skipSpace rest with
              | ':' :: rest =>
                  match readValue fuel rest with
                  | none => none
                  | some (value, rest) =>
                      match skipSpace rest with
                      | ',' :: rest =>
                          (readMembers fuel rest).map fun (members, rest) =>
                            ((name, value) :: members, rest)
                      | '\x7d' :: rest => some ([(name, value)], rest)
                      | _ => none
              | _ => none
      | _ => none

end

/-- Every two steps of the reader take a character, which bounds their number. -/
def read (text : List Char) : Option Form :=
  match readValue (2 * text.length + 2) text with
  | some (form, rest) => if (skipSpace rest).isEmpty then some form else none
  | none => none

end Form

end ScriptHost.Json
