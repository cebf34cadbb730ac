/-
This file shows that bytes are read as text only if they are the bytes of that text.
-/
import ScriptHost.Proofs.Text.Utf8

namespace ScriptHost.Text.Utf8

section Sequences

/-- A character that is made of a valid code has that code. -/
theorem toNat_ofNat {code : Nat} (valid : code < 0xD800 ∨ 0xDFFF < code ∧ code < 0x110000) :
    (Char.ofNat code).toNat = code := by
  have isValid : code.isValidChar := valid
  rw [Char.ofNat, dif_pos isValid]
  rfl

variable {first second third fourth : Nat} (small : second < 64)

include small

/-- A code below 2048 takes two bytes. -/
theorem encodeChar_two (above : 2 ≤ first) (below : first < 32) :
    encodeChar (Char.ofNat (first * 64 + second)) = [UInt8.ofNat (0xC0 + first), UInt8.ofNat (0x80 + second)] := by
  have high : (first * 64 + second) / 64 = first := by omega
  have low : (first * 64 + second) % 64 = second := by omega
  rw [encodeChar, toNat_ofNat (by omega), if_neg (by omega), if_pos (by omega), high, low]

/-- A code below 65536 that is no surrogate takes three bytes. -/
theorem encodeChar_three (last : third < 64) (above : 32 ≤ first * 64 + second) (below : first < 16)
    (proper : first * 64 + second < 0x360 ∨ 0x37F < first * 64 + second) :
    encodeChar (Char.ofNat ((first * 64 + second) * 64 + third)) =
      [UInt8.ofNat (0xE0 + first), UInt8.ofNat (0x80 + second), UInt8.ofNat (0x80 + third)] := by
  have high : ((first * 64 + second) * 64 + third) / 4096 = first := by omega
  have middle : ((first * 64 + second) * 64 + third) / 64 % 64 = second := by omega
  have low : ((first * 64 + second) * 64 + third) % 64 = third := by omega
  rw [encodeChar, toNat_ofNat (by omega), if_neg (by omega), if_neg (by omega), if_pos (by omega), high, middle, low]

/-- Every further valid code takes four bytes. -/
theorem encodeChar_four (later : third < 64) (last : fourth < 64) (above : 16 ≤ first * 64 + second)
    (below : first * 64 + second < 0x110) :
    encodeChar (Char.ofNat (((first * 64 + second) * 64 + third) * 64 + fourth)) =
      [UInt8.ofNat (0xF0 + first), UInt8.ofNat (0x80 + second), UInt8.ofNat (0x80 + third),
        UInt8.ofNat (0x80 + fourth)] := by
  have high : (((first * 64 + second) * 64 + third) * 64 + fourth) / 262144 = first := by omega
  have next : (((first * 64 + second) * 64 + third) * 64 + fourth) / 4096 % 64 = second := by omega
  have middle : (((first * 64 + second) * 64 + third) * 64 + fourth) / 64 % 64 = third := by omega
  have low : (((first * 64 + second) * 64 + third) * 64 + fourth) % 64 = fourth := by omega
  rw [encodeChar, toNat_ofNat (by omega), if_neg (by omega), if_neg (by omega), if_neg (by omega), high, next,
    middle, low]

end Sequences

section Whole

variable {bytes : List UInt8} {text : List Char}

/-- A text has no damaged piece. -/
theorem damaged_ne {pieces : List Piece} : Piece.damaged :: pieces ≠ text.map .character := by
  cases text <;> simp

/-- A sequence that is open goes on with a byte of its range, or something is damaged. -/
theorem scan_open {remaining bits : Nat} {low high : UInt8} (begun : 0x80 ≤ low.toNat)
    (whole : scan (some ⟨remaining + 1, low, high, bits⟩) bytes = text.map .character) :
    ∃ value rest, bytes = UInt8.ofNat (0x80 + value) :: rest ∧ low.toNat ≤ 0x80 + value ∧ 0x80 + value ≤ high.toNat ∧
      (if remaining = 0 then .character (Char.ofNat (bits * 64 + value)) :: scan none rest
        else scan (some ⟨remaining, 0x80, 0xBF, bits * 64 + value⟩) rest) = text.map .character := by
  cases bytes with
  | nil => exact absurd whole damaged_ne
  | cons byte rest =>
      rw [scan] at whole
      split at whole
      · next accepted =>
          simp only [Partial.accepts, Bool.and_eq_true, decide_eq_true_eq, UInt8.le_iff_toNat_le] at accepted
          have back : UInt8.ofNat (0x80 + (byte.toNat - 0x80)) = byte := by
            rw [Nat.add_sub_cancel' (by omega), UInt8.ofNat_toNat]
          refine ⟨byte.toNat - 0x80, rest, by rw [back], by omega, by omega, ?_⟩
          have last : remaining + 1 = 1 ↔ remaining = 0 := by omega
          simp only [last] at whole
          exact whole
      · split at whole <;> exact absurd whole damaged_ne

/-- Where nothing is damaged, the bytes begin with the bytes of the first character. -/
theorem scan_first {byte : UInt8} {rest : List UInt8} (whole : scan none (byte :: rest) = text.map .character) :
    ∃ value later tail, text = value :: later ∧ byte :: rest = encodeChar value ++ tail ∧
      scan none tail = later.map .character := by
  obtain ⟨code, small, rfl⟩ : ∃ code, code < 256 ∧ byte = UInt8.ofNat code :=
    ⟨byte.toNat, byte.toNat_lt, UInt8.ofNat_toNat.symm⟩
  have ends {value : Char} {tail : List UInt8} (head : Piece.character value :: scan none tail = text.map .character)
      (bytes : UInt8.ofNat code :: rest = encodeChar value ++ tail) :
      ∃ value later tail, text = value :: later ∧ UInt8.ofNat code :: rest = encodeChar value ++ tail ∧
        scan none tail = later.map .character := by
    cases text with
    | nil => exact absurd head (List.cons_ne_nil _ _)
    | cons first later =>
        obtain ⟨same, others⟩ := List.cons.inj head
        cases same
        exact ⟨value, later, tail, rfl, bytes, others⟩
  rw [scan] at whole
  by_cases one : code < 0x80
  · rw [start_small small, if_pos one] at whole
    refine ends whole ?_
    rw [encodeChar, toNat_ofNat (by omega), if_pos one]
    rfl
  by_cases stray : code < 0xC2
  · rw [start_small small, if_neg one, if_pos stray] at whole
    exact absurd whole damaged_ne
  by_cases two : code < 0xE0
  · rw [start_small small, if_neg one, if_neg stray, if_pos two] at whole
    obtain ⟨value, tail, rfl, above, below, whole⟩ := scan_open (by simp) whole
    simp only [UInt8.reduceToNat] at above below
    refine ends whole ?_
    rw [encodeChar_two (by omega) (by omega) (by omega), Nat.add_sub_cancel' (by omega)]
    rfl
  by_cases three : code < 0xF0
  · obtain ⟨low, high, begins, floor, ceiling⟩ := start_three (Nat.le_of_not_lt two) three
    rw [begins] at whole
    obtain ⟨second, _, rfl, above, below, whole⟩ := scan_open (by omega) whole
    obtain ⟨third, tail, rfl, above', below', whole⟩ := scan_open (by simp) whole
    simp only [UInt8.reduceToNat] at above' below'
    refine ends whole ?_
    rw [encodeChar_three (by omega) (by omega) (by omega) (by omega) (by omega), Nat.add_sub_cancel' (by omega)]
    rfl
  by_cases four : code < 0xF5
  · obtain ⟨low, high, begins, floor, ceiling⟩ := start_four (Nat.le_of_not_lt three) four
    rw [begins] at whole
    obtain ⟨second, _, rfl, above, below, whole⟩ := scan_open (by omega) whole
    obtain ⟨third, _, rfl, above', below', whole⟩ := scan_open (by simp) whole
    obtain ⟨fourth, tail, rfl, above'', below'', whole⟩ := scan_open (by simp) whole
    simp only [UInt8.reduceToNat] at above' below' above'' below''
    refine ends whole ?_
    rw [encodeChar_four (by omega) (by omega) (by omega) (by omega) (by omega), Nat.add_sub_cancel' (by omega)]
    rfl
  · rw [start_small small, if_neg one, if_neg stray, if_neg two, if_neg (by omega), if_neg (by omega), if_neg three,
      if_neg (by omega), if_neg (by omega), if_neg (by omega)] at whole
    exact absurd whole damaged_ne

/-- Bytes that are scanned without damage are the bytes of the text that they scan to. -/
theorem scan_whole (whole : scan none bytes = text.map .character) : bytes = encodeChars text := by
  induction text generalizing bytes with
  | nil =>
      cases bytes with
      | nil => rfl
      | cons byte rest =>
          obtain ⟨_, _, _, same, -⟩ := scan_first whole
          exact absurd same.symm (List.cons_ne_nil _ _)
  | cons value later ih =>
      cases bytes with
      | nil => exact absurd whole.symm (List.cons_ne_nil _ _)
      | cons byte rest =>
          obtain ⟨first, others, tail, same, bytes, whole⟩ := scan_first whole
          obtain ⟨rfl, rfl⟩ := List.cons.inj same
          rw [bytes, encodeChars, List.flatMap_cons, ih whole]
          rfl

end Whole

/-- A place that is a character is read as it. -/
theorem mapM_character? {pieces : List Piece} {text : List Char} :
    pieces.mapM Piece.character? = some text ↔ pieces = text.map .character := by
  induction pieces generalizing text with
  | nil => cases text <;> simp
  | cons piece rest ih =>
      cases piece with
      | damaged => simp [Piece.character?, damaged_ne]
      | character value => cases text <;> simp [Piece.character?, Option.bind_eq_some_iff, ih, and_left_comm]

/-- Bytes are read as a text exactly if they are its bytes. -/
theorem decode?_eq_some {bytes : List UInt8} {text : String} : decode? bytes = some text ↔ bytes = encode text := by
  constructor
  · intro read
    obtain ⟨characters, mapped, rfl⟩ := Option.map_eq_some_iff.mp read
    rw [encode, String.toList_ofList]
    exact scan_whole (mapM_character?.mp mapped)
  · rintro rfl
    rw [decode?, encode, pieces_encodeChars, mapM_character?.mpr rfl, Option.map_some, String.ofList_toList]

end ScriptHost.Text.Utf8
