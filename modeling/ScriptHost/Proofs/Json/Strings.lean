/-
This file reads back the strings that JSON texts quote.
-/
import ScriptHost.Json.Value

namespace ScriptHost.Json

open Form (TextUnit readUnits readString resolve hexDigit? escape? isHighHalf isLowHalf)

/-- A control character that has no letter of its own is written by number. -/
def unitOf (value : Char) : TextUnit :=
  if value.toNat < 32 ∧ value.toNat ∉ [8, 9, 10, 12, 13] then .code value.toNat else .plain value

/-- A unit has been read before all the others. -/
def started (unit : TextUnit) (read : List TextUnit × List Char) : List TextUnit × List Char :=
  (unit :: read.1, read.2)

section Units

variable {value letter : Char} (rest : List Char)

/-- A digit of base sixteen is read as it was written. -/
theorem hexDigit?_hexDigit : ∀ digit < 16, hexDigit? (hexDigit digit) = some digit := by
  decide

/-- An escaped letter is read as its character. -/
theorem readUnits_letter (apart : letter ≠ 'u') (known : escape? letter = some value) :
    readUnits ('\\' :: letter :: rest) = (readUnits rest).map (started (.plain value)) := by
  rw [readUnits, known]
  · cases readUnits rest <;> rfl
  · exact fun _ _ _ _ _ same _ => apart same

/-- An escaped number is read as its code. -/
theorem readUnits_number {code : Nat} (small : code < 32) :
    readUnits ('\\' :: 'u' :: '0' :: '0' :: hexDigit (code / 16) :: hexDigit (code % 16) :: rest) =
      (readUnits rest).map (started (.code code)) := by
  have upper := hexDigit?_hexDigit (code / 16) (by omega)
  have lower := hexDigit?_hexDigit (code % 16) (by omega)
  have zero : hexDigit? '0' = some 0 := rfl
  have whole : ((0 * 16 + 0) * 16 + code / 16) * 16 + code % 16 = code := by omega
  rw [readUnits, zero, upper, lower]
  simp only [Option.bind_eq_bind, Option.bind_some, whole]
  cases readUnits rest <;> rfl

/-- A plain character is read as itself. -/
theorem readUnits_plain (noQuote : value ≠ '"') (noSlash : value ≠ '\\') (visible : ¬ value.toNat < 32) :
    readUnits (value :: rest) = (readUnits rest).map (started (.plain value)) := by
  have fine : ¬ (decide (value.toNat < 0x20) || value == '\\') = true := by
    rw [decide_eq_false visible, Bool.false_or, beq_iff_eq]
    exact noSlash
  rw [readUnits, if_neg fine]
  · cases readUnits rest <;> rfl
  · exact noQuote
  · exact fun _ _ _ _ _ same _ => noSlash same
  · exact fun _ _ same _ => noSlash same

/-- One unit is read for each character that was written. -/
theorem readUnits_escapeChar (value : Char) :
    readUnits (escapeChar value ++ rest) = (readUnits rest).map (started (unitOf value)) := by
  have named {code : Nat} (same : value.toNat = code) : value = Char.ofNat code := by
    rw [← same, Char.ofNat_toNat]
  unfold escapeChar
  split
  · next same => subst same; exact readUnits_letter rest (by decide) rfl
  split
  · next same => subst same; exact readUnits_letter rest (by decide) rfl
  split
  · next same => obtain rfl := named same; exact readUnits_letter rest (by decide) rfl
  split
  · next same => obtain rfl := named same; exact readUnits_letter rest (by decide) rfl
  split
  · next same => obtain rfl := named same; exact readUnits_letter rest (by decide) rfl
  split
  · next same => obtain rfl := named same; exact readUnits_letter rest (by decide) rfl
  split
  · next same => obtain rfl := named same; exact readUnits_letter rest (by decide) rfl
  have long : value.toNat ∉ [8, 9, 10, 12, 13] := by
    simp only [List.mem_cons, List.not_mem_nil, or_false]
    omega
  split
  · next control =>
      rw [unitOf, if_pos ⟨control, long⟩]
      exact readUnits_number rest control
  · next noQuote noSlash _ _ _ _ _ visible =>
      rw [unitOf, if_neg fun both => visible both.1]
      exact readUnits_plain rest noQuote noSlash visible

/-- A quoted text is read up to its closing quote. -/
theorem readUnits_quoted (text : List Char) :
    readUnits (text.flatMap escapeChar ++ '"' :: rest) = some (text.map unitOf, rest) := by
  induction text with
  | nil => rfl
  | cons value text ih =>
      rw [List.flatMap_cons, List.append_assoc, readUnits_escapeChar, ih]
      rfl

end Units

/-- A small number is no half of a pair. -/
theorem resolve_code {code : Nat} (small : code < 32) (rest : List TextUnit) :
    resolve (.code code :: rest) = (resolve rest).map (Char.ofNat code :: ·) := by
  have noHigh : isHighHalf code = false := by
    rw [isHighHalf, decide_eq_false (by omega), Bool.false_and]
  have noLow : isLowHalf code = false := by
    rw [isLowHalf, decide_eq_false (by omega), Bool.false_and]
  rcases rest with - | ⟨value | low, rest⟩
  · simp only [resolve, noHigh, noLow, Bool.or_self, Bool.false_eq_true, if_false]
  · simp only [resolve, noHigh, noLow, Bool.or_self, Bool.false_eq_true, if_false]
  · rw [resolve, noHigh, noLow]
    rfl

/-- The units of a text are resolved to it. -/
theorem resolve_units (text : List Char) : resolve (text.map unitOf) = some text := by
  induction text with
  | nil => rfl
  | cons value text ih =>
      rw [List.map_cons, unitOf]
      split
      · next control =>
          rw [resolve_code control.1, ih, Char.ofNat_toNat]
          rfl
      · rw [resolve, ih]
        rfl

/-- A quoted text starts and ends with a quote. -/
theorem quote_append (text : String) (rest : List Char) :
    quote text ++ rest = '"' :: (text.toList.flatMap escapeChar ++ '"' :: rest) := by
  rw [quote, List.append_assoc, List.cons_append, List.singleton_append]

/-- A quoted text is read as the text. -/
theorem readString_quoted (text : String) (rest : List Char) :
    readString (text.toList.flatMap escapeChar ++ '"' :: rest) = some (some text, rest) := by
  have read := readUnits_quoted rest text.toList
  rw [readString, read]
  simp only [Option.bind_eq_bind, Option.bind_some, resolve_units, Option.map_some, String.ofList_toList]
  rfl

end ScriptHost.Json
