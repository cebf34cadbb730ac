/-
This file reads back the whole numbers that JSON texts hold.
-/
import ScriptHost.Json.Value

namespace ScriptHost.Json

open Form (isDigit readWhole readFraction readExponent readNumeral)

/-- Nothing more of a numeral can follow, since the text is over or goes on with a mark. -/
inductive Ended : List Char → Prop where
  | nothing : Ended []
  | comma (rest : List Char) : Ended (',' :: rest)
  | bracket (rest : List Char) : Ended (']' :: rest)
  | brace (rest : List Char) : Ended ('\x7d' :: rest)

section Digits

variable {rest : List Char}

/-- Where a number has ended there are no digits. -/
theorem Ended.noDigit (ended : Ended rest) : rest.takeWhile isDigit = [] ∧ rest.dropWhile isDigit = rest := by
  cases ended <;> exact ⟨rfl, rfl⟩

/-- Where a number has ended there is no fraction. -/
theorem Ended.noFraction (ended : Ended rest) : readFraction rest = some ([], rest) := by
  cases ended <;> rfl

/-- Where a number has ended there is no exponent. -/
theorem Ended.noExponent (ended : Ended rest) : readExponent rest = some (none, rest) := by
  cases ended <;> rfl

/-- Digits are the usual ones. -/
theorem isDigit_eq (value : Char) : isDigit value = value.isDigit := by
  rw [isDigit, Char.isDigit]
  rfl

/-- A numeral consists of digits. -/
theorem isDigit_of_mem_digits {number : Nat} {digit : Char} (member : digit ∈ Nat.toDigits 10 number) :
    isDigit digit = true := by
  rw [isDigit_eq]
  exact Nat.isDigit_of_mem_toDigits (by decide) (by decide) member

/-- Only the digit of zero is zero. -/
theorem digitChar_ne_zero : ∀ digit < 10, digit ≠ 0 → Nat.digitChar digit ≠ '0' := by
  decide

/-- Only zero starts with a zero. -/
theorem digits_lead (number : Nat) :
    ∃ first more, Nat.toDigits 10 number = first :: more ∧ (number ≠ 0 → first ≠ '0') := by
  induction number using Nat.strongRecOn with
  | ind number ih =>
      rw [Nat.toDigits_eq_if (by decide)]
      split
      · next small => exact ⟨_, [], rfl, digitChar_ne_zero number small⟩
      · next large =>
          obtain ⟨first, more, written, leads⟩ := ih (number / 10) (by omega)
          rw [written]
          exact ⟨first, _, rfl, fun _ => leads (by omega)⟩

/-- The digits of a number are read whole. -/
theorem readWhole_digits (number : Nat) (ended : Ended rest) :
    readWhole (Nat.toDigits 10 number ++ rest) = some (Nat.toDigits 10 number, rest) := by
  by_cases zero : number = 0
  · subst zero
    rfl
  · have digits : ∀ digit ∈ Nat.toDigits 10 number, isDigit digit = true := fun _ => isDigit_of_mem_digits
    obtain ⟨none, whole⟩ := ended.noDigit
    rw [readWhole, List.takeWhile_append_of_pos digits, List.dropWhile_append_of_pos digits, none, whole,
      List.append_nil, if_neg]
    · rw [List.isEmpty_iff]
      exact Nat.toDigits_ne_nil
    · intro after same
      obtain ⟨first, more, written, leads⟩ := digits_lead number
      rw [written] at same
      exact leads zero (List.cons.inj same).1

/-- The digits of a number have its value. -/
theorem wholeValue_digits (negative : Bool) (number : Nat) :
    Numeral.wholeValue ⟨negative, Nat.toDigits 10 number, [], none⟩ = number := by
  have value := Nat.ofDigitChars_toDigits (b := 10) (n := number) (by decide) (by decide)
  rw [Nat.ofDigitChars_eq_foldl] at value
  simp only [Nat.mul_comm 10] at value
  exact value

end Digits

namespace Number

/-- A whole number is written with digits alone, and a sign stands before a negative one. -/
def Whole : Number → Prop
  | .natural _ => True
  | .negative value => value < 0
  | .float _ => False

/-- What a float is written with is left open. -/
def numeral : Number → Numeral
  | .natural value => ⟨false, Nat.toDigits 10 value.toNat, [], none⟩
  | .negative value => ⟨true, Nat.toDigits 10 value.toInt.natAbs, [], none⟩
  | .float _ => ⟨false, [], [], none⟩

/-- A negative number is written with a sign and the digits of its absolute value. -/
theorem write_negative {value : Int64} (below : value < 0) :
    (Number.negative value).write = '-' :: Nat.toDigits 10 value.toInt.natAbs := by
  have below : value.toInt < 0 := Int64.lt_iff_toInt_lt.mp below
  obtain ⟨size, same⟩ := Int.eq_negSucc_of_lt_zero below
  have shown : toString (Int.negSucc size) = "-" ++ (size + 1).repr := rfl
  rw [write, same, shown, Nat.repr_eq_ofList_toDigits, String.toList_append, String.toList_ofList,
    String.toList_ofList, Int.natAbs_negSucc]
  rfl

/-- The first character tells that a number begins. -/
theorem write_lead {number : Number} (whole : number.Whole) :
    ∃ first more, number.write = first :: more ∧ (first = '-' ∨ isDigit first = true) := by
  cases number with
  | natural value =>
      obtain ⟨first, more, written, -⟩ := digits_lead value.toNat
      have among : first ∈ Nat.toDigits 10 value.toNat := by
        rw [written]
        exact List.mem_cons_self
      exact ⟨first, more, written, .inr (isDigit_of_mem_digits among)⟩
  | negative value => exact ⟨'-', _, write_negative whole, .inl rfl⟩
  | float value => exact whole.elim

/-- A whole number is read as its own numeral. -/
theorem readNumeral_write {number : Number} {rest : List Char} (whole : number.Whole) (ended : Ended rest) :
    readNumeral (number.write ++ rest) = some (number.numeral, rest) := by
  cases number with
  | natural value =>
      rw [write, readNumeral]
      · simp only [readWhole_digits _ ended, Option.bind_eq_bind, Option.bind_some, ended.noFraction, ended.noExponent]
        rfl
      · intro after same
        have minus : '-' ∈ Nat.toDigits 10 value.toNat := by
          obtain ⟨first, more, written, -⟩ := digits_lead value.toNat
          rw [written] at same ⊢
          rw [(List.cons.inj same).1]
          exact List.mem_cons_self
        exact absurd (isDigit_of_mem_digits minus) (by decide)
  | negative value =>
      rw [write_negative whole, List.cons_append, readNumeral]
      simp only [readWhole_digits _ ended, Option.bind_eq_bind, Option.bind_some, ended.noFraction, ended.noExponent]
      rfl
  | float value => exact whole.elim

/-- The numeral of a whole number has its value. -/
theorem number?_numeral {number : Number} (whole : number.Whole) : number.numeral.number? = some number := by
  cases number with
  | natural value =>
      rw [numeral, Numeral.number?, wholeValue_digits]
      have fits : value.toNat < 0x10000000000000000 := value.toNat_lt
      rw [if_pos ⟨rfl, Bool.false_ne_true, fits⟩, UInt64.ofNat_toNat]
  | negative value =>
      have below : value.toInt < 0 := Int64.lt_iff_toInt_lt.mp whole
      have least : -2 ^ 63 ≤ value.toInt := Int64.le_toInt value
      have size : -(value.toInt.natAbs : Int) = value.toInt := by omega
      rw [numeral, Numeral.number?, wholeValue_digits, if_neg fun both => both.2.1 rfl,
        if_pos ⟨rfl, rfl, by omega, by omega⟩, size, Int64.ofInt_toInt]
  | float value => exact whole.elim

end Number

end ScriptHost.Json
