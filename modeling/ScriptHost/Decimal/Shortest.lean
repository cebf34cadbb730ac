/-
This file finds the shortest decimal that reads back as a given binary float.
-/

namespace ScriptHost.Decimal

/-- A binary interchange format is fixed by the widths of its two fields. -/
structure Format where
  fractionBits : Nat
  exponentBits : Nat
  deriving DecidableEq, Repr

def single : Format := ⟨23, 8⟩

def double : Format := ⟨52, 11⟩

/-- A finite magnitude is `mantissa * 2 ^ exponent`. -/
inductive Magnitude where
  | notANumber
  | infinite
  | zero
  | finite (mantissa : Nat) (exponent : Int) (lowest : Bool)
  deriving DecidableEq, Repr

structure Reading where
  negative : Bool
  magnitude : Magnitude
  deriving DecidableEq, Repr

def Format.bias (format : Format) : Int :=
  Int.ofNat (1 <<< (format.exponentBits - 1)) - 1 + format.fractionBits

/-- The flag of a finite magnitude says that the gap below it is half the gap above it. -/
def Format.read (format : Format) (bits : Nat) : Reading :=
  let fraction := bits % 1 <<< format.fractionBits
  let field := bits >>> format.fractionBits % 1 <<< format.exponentBits
  let negative := bits >>> (format.fractionBits + format.exponentBits) % 2 == 1
  let magnitude :=
    if field = 1 <<< format.exponentBits - 1 then
      if fraction = 0 then .infinite else .notANumber
    else if field = 0 then
      if fraction = 0 then .zero else .finite fraction (1 - format.bias) false
    else
      .finite (1 <<< format.fractionBits + fraction) (field - format.bias)
        (fraction = 0 && 1 < field)
  ⟨negative, magnitude⟩

/-- A decimal is `digits * 10 ^ exponent`. -/
structure Digits where
  digits : Nat
  exponent : Int
  deriving DecidableEq, Repr

/-- This pair of weights compares `d * 10 ^ ten` with `c * 2 ^ two` as `d * fst` with `c * snd`. -/
def weights (ten two : Int) : Nat × Nat :=
  (Nat.pow 10 ten.toNat <<< (-two).toNat, Nat.pow 10 (-ten).toNat <<< two.toNat)

/-- The value and the ends of the interval that rounds to it are counted in quarter units. -/
structure Target where
  value : Nat
  below : Nat
  above : Nat
  closed : Bool
  two : Int
  deriving DecidableEq, Repr

def Target.ofFinite (mantissa : Nat) (exponent : Int) (lowest : Bool) : Target where
  value := 4 * mantissa
  below := if lowest then 4 * mantissa - 1 else 4 * mantissa - 2
  above := 4 * mantissa + 2
  closed := mantissa % 2 == 0
  two := exponent - 2

def Target.contains (target : Target) (ten : Int) (digits : Nat) : Bool :=
  let (left, right) := weights ten target.two
  let point := digits * left
  if target.closed then target.below * right ≤ point && point ≤ target.above * right
  else target.below * right < point && point < target.above * right

def Target.distance (target : Target) (ten : Int) (digits : Nat) : Nat :=
  let (left, right) := weights ten target.two
  (Int.natAbs (digits * left - target.value * right : Int))

/-- A value halfway between two decimals of the same length goes up or to the even one. -/
inductive Tie where
  | up
  | even
  deriving DecidableEq, Repr

def Tie.choose (tie : Tie) (lower : Nat) : Nat :=
  match tie with
  | .up => lower + 1
  | .even => if lower % 2 = 0 then lower else lower + 1

def Target.nearer (target : Target) (tie : Tie) (ten : Int) (lower : Nat) : Nat :=
  match compare (target.distance ten lower) (target.distance ten (lower + 1)) with
  | .lt => lower
  | .gt => lower + 1
  | .eq => tie.choose lower

/-- On one decimal grid only the two neighbours of the value can be nearest to it. -/
def Target.onGrid (target : Target) (tie : Tie) (ten : Int) : Option Nat :=
  let (left, right) := weights ten target.two
  let lower := target.value * right / left
  let upper := lower + 1
  match target.contains ten lower, target.contains ten upper with
  | true, true => target.nearer tie ten lower
  | true, false => lower
  | false, true => upper
  | false, false => none

def digitCount (value : Nat) : Nat :=
  (Nat.toDigits 10 value).length

/-- This is the place of the leading digit; 400 places reach past the smallest double. -/
def Target.leading (target : Target) : Int :=
  let (left, right) := weights (-400) target.two
  (digitCount (target.value * right / left) : Int) - 401

def Target.search (target : Target) (tie : Tie) (leading : Int) : Nat → Nat → Option Digits
  | 0, _ => none
  | left + 1, places =>
      match target.onGrid tie (leading - places) with
      | some digits => some ⟨digits, leading - places⟩
      | none => target.search tie leading left (places + 1)

def Digits.dropZeros : Nat → Digits → Digits
  | 0, decimal => decimal
  | fuel + 1, decimal =>
      if decimal.digits % 10 = 0 then
        Digits.dropZeros fuel ⟨decimal.digits / 10, decimal.exponent + 1⟩
      else decimal

/-- Coarser grids come first; seventeen digits always suffice for a double. -/
def shortest (tie : Tie) (mantissa : Nat) (exponent : Int) (lowest : Bool) : Digits :=
  let target := Target.ofFinite mantissa exponent lowest
  match target.search tie target.leading 20 0 with
  | some decimal => decimal.dropZeros (digitCount decimal.digits - 1)
  | none => ⟨mantissa, exponent⟩

end ScriptHost.Decimal
