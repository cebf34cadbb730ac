/-
This file says which texts are counts, and what is wrong with the others.
-/
import Mathlib.Data.List.Induction
import Mathlib.Logic.Relator
import ScriptHost.CommandLine

namespace ScriptHost.CommandLine

/-- This is the number that decimal digits stand for. -/
def number (digits : List Char) : Nat :=
  Nat.ofDigitChars 10 digits 0

/-- Some digits after one plus sign at most stand for the number. -/
def IsCount (text : String) (count : UInt64) : Prop :=
  ∃ digits, (text.toList = digits ∨ text.toList = '+' :: digits) ∧ digits ≠ [] ∧
    (∀ digit ∈ digits, digit.isDigit) ∧ number digits = count.toNat

/-- The number so far is read without failure. -/
def Fits (digits : List Char) : Prop :=
  (∀ digit ∈ digits, digit.isDigit) ∧ number digits < 0x10000000000000000

/-- The text goes on like this after the sign that may stand at its beginning. -/
def Unsigned (text : String) (body : List Char) : Prop :=
  text.toList = '+' :: body ∨ text.toList = body ∧ body.head? ≠ some '+'

/-- A digit cannot be read after these. -/
inductive Stops (digits : List Char) (digit : Char) : NumberError → Prop
  | invalidDigit (fits : Fits digits) (wrong : ¬ digit.isDigit) : Stops digits digit .invalidDigit
  | tooLarge (fits : Fits digits) (right : digit.isDigit) (large : 0x10000000000000000 ≤ number (digits ++ [digit])) :
      Stops digits digit .tooLarge

/-- The first digit that is wrong or too much decides what the matter is. -/
inductive Miscount (text : String) : NumberError → Prop
  | empty (nothing : text.toList = []) : Miscount text .empty
  | bare (sign : text.toList = ['+']) : Miscount text .invalidDigit
  | stopped {digits rest : List Char} {digit : Char} {cause : NumberError}
      (body : Unsigned text (digits ++ digit :: rest)) (stops : Stops digits digit cause) : Miscount text cause

variable {text : String} {digits rest : List Char} {digit : Char} {count : UInt64} {cause : NumberError}

/-- Digits are the characters from zero to nine. -/
theorem isDigit_iff : digit.isDigit ↔ '0' ≤ digit ∧ digit ≤ '9' := by
  rw [Char.isDigit, Bool.and_eq_true, decide_eq_true_eq, decide_eq_true_eq]
  rfl

/-- A digit behind a number multiplies it by ten and is added. -/
theorem number_concat (digits : List Char) (digit : Char) :
    number (digits ++ [digit]) = number digits * 10 + (digit.toNat - 48) := by
  rw [number, Nat.ofDigitChars_append, Nat.ofDigitChars_cons, Nat.mul_comm]
  rfl

/-- The empty text fits. -/
theorem fits_nil : Fits [] :=
  ⟨nofun, by decide⟩

/-- What stands in front of a number that fits does so too. -/
theorem Fits.of_concat (fits : Fits (digits ++ [digit])) : Fits digits := by
  obtain ⟨decimal, small⟩ := fits
  rw [number_concat] at small
  exact ⟨fun other held => decimal other (List.mem_append_left _ held), by omega⟩

/-- What stops a reader comes behind digits that fit. -/
theorem Stops.fits (stops : Stops digits digit cause) : Fits digits := by
  cases stops with
  | invalidDigit fits | tooLarge fits => exact fits

/-- The next character either fits or is the one that stops the reader. -/
theorem fits_or_stops (fits : Fits digits) (digit : Char) :
    Fits (digits ++ [digit]) ∨ ∃ cause, Stops digits digit cause := by
  by_cases right : digit.isDigit
  · rcases Nat.lt_or_ge (number (digits ++ [digit])) 0x10000000000000000 with small | large
    · refine .inl ⟨?_, small⟩
      rw [List.forall_mem_append, List.forall_mem_singleton]
      exact ⟨fits.1, right⟩
    · exact .inr ⟨_, .tooLarge fits right large⟩
  · exact .inr ⟨_, .invalidDigit fits right⟩

/-- All can be read, or something stops it. -/
theorem fits_or_stopped (body : List Char) :
    Fits body ∨ ∃ digits digit rest cause, body = digits ++ digit :: rest ∧ Stops digits digit cause := by
  induction body using List.reverseRecOn with
  | nil => exact .inl fits_nil
  | append_singleton body last ih =>
      rcases ih with fits | ⟨digits, digit, rest, cause, rfl, stops⟩
      · rcases fits_or_stops fits last with fits' | ⟨cause, stops⟩
        · exact .inl fits'
        · exact .inr ⟨body, last, [], cause, rfl, stops⟩
      · exact .inr ⟨digits, digit, rest ++ [last], cause, List.append_assoc _ _ _, stops⟩

/-- What fits is read, and the rest is read from there. -/
theorem readDigits_fits (fits : Fits digits) (rest : List Char) :
    readDigits 0 (digits ++ rest) = readDigits (number digits) rest := by
  induction digits using List.reverseRecOn generalizing rest with
  | nil => rfl
  | append_singleton digits digit ih =>
      have right := fits.1 digit List.mem_concat_self
      rw [List.append_assoc, ih fits.of_concat, List.singleton_append, readDigits, ← number_concat]
      exact (if_neg (not_not.mpr (isDigit_iff.mp right))).trans (if_pos fits.2)

/-- A reader that is stopped tells the cause, whatever follows. -/
theorem readDigits_stops (stops : Stops digits digit cause) (rest : List Char) :
    readDigits 0 (digits ++ digit :: rest) = .error cause := by
  rw [readDigits_fits stops.fits, readDigits, ← number_concat]
  cases stops with
  | invalidDigit fits wrong => exact if_pos (mt isDigit_iff.mpr wrong)
  | tooLarge fits right large =>
      exact (if_neg (not_not.mpr (isDigit_iff.mp right))).trans (if_neg (Nat.not_lt.mpr large))

/-- Digits that fit are read as their number. -/
theorem readDigits_whole (fits : Fits digits) : readDigits 0 digits = .ok (UInt64.ofNat (number digits)) := by
  have whole := readDigits_fits fits []
  rw [List.append_nil] at whole
  exact whole

/-- A text is read as a count exactly if it consists of the digits of that number. -/
theorem readDigits_ok :
    readDigits 0 digits = .ok count ↔ (∀ digit ∈ digits, digit.isDigit) ∧ number digits = count.toNat := by
  constructor
  · intro read
    rcases fits_or_stopped digits with fits | ⟨before, digit, rest, cause, rfl, stops⟩
    · rw [readDigits_whole fits] at read
      cases read
      exact ⟨fits.1, (UInt64.toNat_ofNat_of_lt' fits.2).symm⟩
    · rw [readDigits_stops stops] at read
      cases read
  · rintro ⟨decimal, same⟩
    rw [readDigits_whole ⟨decimal, same ▸ count.toNat_lt⟩, same, UInt64.ofNat_toNat]

/-- A reader fails exactly at the first character that stops it. -/
theorem readDigits_error {body : List Char} :
    readDigits 0 body = .error cause ↔
      ∃ digits digit rest, body = digits ++ digit :: rest ∧ Stops digits digit cause := by
  constructor
  · intro failed
    rcases fits_or_stopped body with fits | ⟨digits, digit, rest, other, rfl, stops⟩
    · rw [readDigits_whole fits] at failed
      cases failed
    · rw [readDigits_stops stops] at failed
      cases failed
      exact ⟨digits, digit, rest, rfl, stops⟩
  · rintro ⟨digits, digit, rest, rfl, stops⟩
    exact readDigits_stops stops rest

/-- A text is empty, a plus sign alone, or has digits to read. -/
theorem unsigned_cases (text : String) :
    text.toList = [] ∨ text.toList = ['+'] ∨ ∃ first rest, Unsigned text (first :: rest) := by
  rcases same : text.toList with - | ⟨first, rest⟩
  · exact .inl rfl
  · by_cases plus : first = '+'
    · rcases rest with - | ⟨second, rest⟩
      · exact .inr (.inl (by rw [plus]))
      · exact .inr (.inr ⟨second, rest, .inl (by rw [same, plus])⟩)
    · exact .inr (.inr ⟨first, rest, .inr ⟨same, fun head => plus (Option.some.inj head)⟩⟩)

/-- A plus sign in front is passed over. -/
theorem readCount_unsigned {first : Char} (unsigned : Unsigned text (first :: rest)) :
    readCount text = readDigits 0 (first :: rest) := by
  unfold readCount
  rcases unsigned with signed | ⟨plain, other⟩
  · rw [signed]
    rfl
  · rw [plain]
    split
    · next empty => cases empty
    · next bare =>
        cases bare
        exact absurd rfl other
    · next signed =>
        cases signed
        exact absurd rfl other
    · rfl

/-- Counts are read exactly where they are written. -/
theorem readCount_ok : readCount text = .ok count ↔ IsCount text count := by
  constructor
  · intro read
    rcases unsigned_cases text with nothing | bare | ⟨first, rest, unsigned⟩
    · rw [readCount, nothing] at read
      cases read
    · rw [readCount, bare] at read
      cases read
    · rw [readCount_unsigned unsigned] at read
      exact ⟨first :: rest, unsigned.symm.imp_left And.left, nofun, readDigits_ok.mp read⟩
  · rintro ⟨digits, written, some, decimal, same⟩
    obtain ⟨first, rest, rfl⟩ := List.exists_cons_of_ne_nil some
    have unlike : (first :: rest).head? ≠ .some '+' := by
      rintro ⟨⟩
      exact absurd (decimal '+' List.mem_cons_self) (by decide)
    have unsigned : Unsigned text (first :: rest) := written.symm.imp_right fun plain => ⟨plain, unlike⟩
    rw [readCount_unsigned unsigned]
    exact readDigits_ok.mpr ⟨decimal, same⟩

/-- Reading fails exactly where no count is written, and it tells why. -/
theorem readCount_error : readCount text = .error cause ↔ Miscount text cause := by
  constructor
  · intro failed
    rcases unsigned_cases text with nothing | bare | ⟨first, rest, unsigned⟩
    · rw [readCount, nothing] at failed
      cases failed
      exact .empty nothing
    · rw [readCount, bare] at failed
      cases failed
      exact .bare bare
    · rw [readCount_unsigned unsigned] at failed
      obtain ⟨digits, digit, later, same, stops⟩ := readDigits_error.mp failed
      rw [same] at unsigned
      exact .stopped unsigned stops
  · intro miscount
    cases miscount with
    | empty nothing => rw [readCount, nothing]
    | bare sign =>
        rw [readCount, sign]
        rfl
    | @stopped digits rest digit _ unsigned stops =>
        obtain ⟨first, others, same⟩ := List.exists_cons_of_ne_nil
          (List.append_ne_nil_of_right_ne_nil digits (List.cons_ne_nil digit rest))
        rw [same] at unsigned
        rw [readCount_unsigned unsigned, ← same]
        exact readDigits_stops stops rest

/-- A text stands for one number at most. -/
theorem isCount_rightUnique : Relator.RightUnique IsCount :=
  fun _ _ _ one other => Except.ok.inj ((readCount_ok.mpr one).symm.trans (readCount_ok.mpr other))

end ScriptHost.CommandLine
