/-
This file gives a value to numerals.
-/
import ScriptHost.Json.Form

namespace ScriptHost.Json

/-- A whole number that fits into 64 bits stays exact. -/
inductive Number where
  | natural (value : UInt64)
  | negative (value : Int64)
  | float (value : Float)
  deriving Repr

namespace Numeral

def digitValue (digit : Char) : Nat :=
  digit.toNat - 48

/-- Digits are taken as long as the number they form fits into 64 bits. -/
def gather : Nat → List Char → Nat × List Char
  | significand, [] => (significand, [])
  | significand, digit :: rest =>
      let next := significand * 10 + digitValue digit
      if next < 0x10000000000000000 then gather next rest else (significand, digit :: rest)

def powerOfTen (exponent : Nat) : Float :=
  Float.ofScientific 1 false exponent

/-- One step divides by the largest power of ten of the format; two steps reach zero. -/
def scale : Nat → Float → Int → Option Float
  | 0, value, _ => some value
  | fuel + 1, value, exponent =>
      if exponent.natAbs ≤ 308 then
        if 0 ≤ exponent then
          let scaled := value * powerOfTen exponent.natAbs
          if scaled.isInf then none else some scaled
        else some (value / powerOfTen exponent.natAbs)
      else if value == 0 then some value
      else if 0 ≤ exponent then none
      else scale fuel (value / powerOfTen 308) (exponent + 308)

def signed (negative : Bool) (value : Float) : Float :=
  if negative then -value else value

/-- The leading digits are scaled by one power of ten; a value past the range is refused. -/
def float? (numeral : Numeral) : Option Float :=
  let (whole, dropped) := gather 0 numeral.whole
  let (significand, ignored) := gather whole numeral.fraction
  let shift : Int := dropped.length - (numeral.fraction.length - ignored.length : Nat)
  match numeral.exponent with
  | none => (scale 4 (UInt64.ofNat significand).toFloat shift).map (signed numeral.negative)
  | some (below, digits) =>
      let size := digits.foldl (fun size digit => size * 10 + digitValue digit) 0
      if 0x80000000 ≤ size then
        if significand ≠ 0 ∧ ¬ below then none else some (signed numeral.negative 0)
      else
        let exponent : Int := if below then shift - size else shift + size
        (scale 4 (UInt64.ofNat significand).toFloat exponent).map (signed numeral.negative)

def isInteger (numeral : Numeral) : Bool :=
  numeral.fraction.isEmpty && numeral.exponent.isNone

def wholeValue (numeral : Numeral) : Nat :=
  numeral.whole.foldl (fun value digit => value * 10 + digitValue digit) 0

/-- A minus sign before zero and a whole number past 64 bits make a float. -/
def number? (numeral : Numeral) : Option Number :=
  let value := numeral.wholeValue
  if numeral.isInteger ∧ ¬ numeral.negative ∧ value < 0x10000000000000000 then
    some (.natural (UInt64.ofNat value))
  else if numeral.isInteger ∧ numeral.negative ∧ 0 < value ∧ value ≤ 0x8000000000000000 then
    some (.negative (Int64.ofInt (-(value : Int))))
  else if numeral.isInteger ∧ numeral.negative ∧ value < 0x10000000000000000 then
    some (.float (-(UInt64.ofNat value).toFloat))
  else numeral.float?.map .float

end Numeral

end ScriptHost.Json
