/-
This file writes decimals in a chosen notation.
-/
import ScriptHost.Decimal.Shortest

namespace ScriptHost.Decimal

/-- A layout fixes every free choice of a notation for floats. -/
structure Layout where
  /-- This says for which place of the leading digit no exponent is written. -/
  positional : Int → Bool
  tie : Tie
  wholeSuffix : String
  plusSign : Bool
  exponentWidth : Nat
  negativeZero : Bool
  notANumber : String
  infinite : String

def zeros (count : Nat) : String :=
  String.ofList (List.replicate count '0')

def Digits.text (decimal : Digits) : List Char :=
  Nat.toDigits 10 decimal.digits

/-- This is the place of the leading digit. -/
def Digits.leading (decimal : Digits) : Int :=
  decimal.text.length + decimal.exponent - 1

def Digits.writePositional (layout : Layout) (decimal : Digits) : String :=
  let text := decimal.text
  let leading := decimal.leading
  if 0 ≤ decimal.exponent then
    String.ofList text ++ zeros decimal.exponent.toNat ++ layout.wholeSuffix
  else if 0 ≤ leading then
    String.ofList (text.take (leading.toNat + 1)) ++ "." ++
      String.ofList (text.drop (leading.toNat + 1))
  else "0." ++ zeros ((-leading).toNat - 1) ++ String.ofList text

def Digits.writeScientific (layout : Layout) (decimal : Digits) : String :=
  let text := decimal.text
  let fraction := text.drop 1
  let exponent := Nat.toDigits 10 decimal.leading.natAbs
  let sign := if decimal.leading < 0 then "-" else if layout.plusSign then "+" else ""
  String.ofList (text.take 1) ++ (if fraction.isEmpty then "" else "." ++ String.ofList fraction) ++
    "e" ++ sign ++ zeros (layout.exponentWidth - exponent.length) ++ String.ofList exponent

def Digits.write (layout : Layout) (decimal : Digits) : String :=
  if layout.positional decimal.leading then decimal.writePositional layout
  else decimal.writeScientific layout

def Reading.write (layout : Layout) (reading : Reading) : String :=
  let sign := if reading.negative then "-" else ""
  match reading.magnitude with
  | .notANumber => layout.notANumber
  | .infinite => sign ++ layout.infinite
  | .zero => (if layout.negativeZero then sign else "") ++ "0" ++ layout.wholeSuffix
  | .finite mantissa exponent lowest =>
      sign ++ (shortest layout.tie mantissa exponent lowest).write layout

def Layout.float (layout : Layout) (value : Float) : String :=
  (double.read value.toBits.toNat).write layout

/-- Every digit is written out and a whole number has no point. -/
def plain : Layout where
  positional := fun _ => true
  tie := .up
  wholeSuffix := ""
  plusSign := false
  exponentWidth := 1
  negativeZero := true
  notANumber := "NaN"
  infinite := "inf"

end ScriptHost.Decimal
