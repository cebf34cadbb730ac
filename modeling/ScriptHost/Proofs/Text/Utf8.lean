/-
This file reads back text that was written as bytes.
-/
import Mathlib.Data.List.TakeWhile
import ScriptHost.Text.Utf8

namespace ScriptHost.Text.Utf8

/-- Characters are written as the standard library writes them. -/
theorem encodeChar_eq (value : Char) : encodeChar value = String.utf8EncodeChar value := by
  have bound : value.toNat < 0x110000 := by
    have := value.valid
    rcases this with h | h <;> simp only [Char.toNat] <;> omega
  have same : value.val.toNat = value.toNat := rfl
  unfold encodeChar String.utf8EncodeChar
  simp only [same]
  generalize value.toNat = code at *
  by_cases one : code < 0x80
  · rw [if_pos one, if_pos (Nat.le_of_lt_succ one)]
  by_cases two : code < 0x800
  · rw [if_neg one, if_pos two, if_neg (by omega), if_pos (by omega), Nat.mod_eq_of_lt (by omega : code / 64 < 32),
      Nat.add_comm 0xC0, Nat.add_comm 0x80]
  by_cases three : code < 0x10000
  · rw [if_neg one, if_neg two, if_pos three, if_neg (by omega), if_neg (by omega), if_pos (by omega),
      Nat.mod_eq_of_lt (by omega : code / 4096 < 16), Nat.add_comm 0xE0, Nat.add_comm 0x80, Nat.add_comm 0x80]
  · rw [if_neg one, if_neg two, if_neg three, if_neg (by omega), if_neg (by omega), if_neg (by omega),
      Nat.mod_eq_of_lt (by omega : code / 262144 < 8), Nat.add_comm 0xF0, Nat.add_comm 0x80, Nat.add_comm 0x80,
      Nat.add_comm 0x80]

/-- A small number fits into a byte. -/
theorem toNat_small {code : Nat} (small : code < 256) : (UInt8.ofNat code).toNat = code := by
  rw [UInt8.toNat_ofNat']
  exact Nat.mod_eq_of_lt small

/-- This is what a byte of a given number can be where a new character is due. -/
theorem start_small {code : Nat} (small : code < 256) :
    start (UInt8.ofNat code) =
      if code < 0x80 then .whole (Char.ofNat code)
      else if code < 0xC2 then .stray
      else if code < 0xE0 then .begins ⟨1, 0x80, 0xBF, code - 0xC0⟩
      else if code = 0xE0 then .begins ⟨2, 0xA0, 0xBF, 0⟩
      else if code = 0xED then .begins ⟨2, 0x80, 0x9F, 0xD⟩
      else if code < 0xF0 then .begins ⟨2, 0x80, 0xBF, code - 0xE0⟩
      else if code = 0xF0 then .begins ⟨3, 0x90, 0xBF, 0⟩
      else if code < 0xF4 then .begins ⟨3, 0x80, 0xBF, code - 0xF0⟩
      else if code = 0xF4 then .begins ⟨3, 0x80, 0x8F, 4⟩
      else .stray := by
  simp only [start, UInt8.lt_iff_toNat_lt, ← UInt8.toNat_inj, toNat_small small, UInt8.reduceToNat]

section Tail

variable {bits value : Nat} {low high : UInt8} {rest : List UInt8} (small : value < 64)
  (above : low.toNat ≤ 0x80 + value) (below : 0x80 + value ≤ high.toNat)

include small above below

/-- A byte of a tail is accepted where any is. -/
theorem accepts_tail (remaining : Nat) :
    (Partial.mk remaining low high bits).accepts (UInt8.ofNat (0x80 + value)) = true := by
  simp only [Partial.accepts, UInt8.le_iff_toNat_le, toNat_small (by omega : 0x80 + value < 256), above, below,
    decide_true, Bool.and_self]

omit above below in
/-- A byte of a tail adds six bits. -/
theorem extend_tail (remaining : Nat) :
    (Partial.mk remaining low high bits).extend (UInt8.ofNat (0x80 + value)) =
      ⟨remaining - 1, 0x80, 0xBF, bits * 64 + value⟩ := by
  simp only [Partial.extend, toNat_small (by omega : 0x80 + value < 256), Nat.add_sub_cancel_left]

/-- The last byte of a tail completes its character. -/
theorem scan_last : scan (some ⟨1, low, high, bits⟩) (UInt8.ofNat (0x80 + value) :: rest) =
    .character (Char.ofNat (bits * 64 + value)) :: scan none rest := by
  rw [scan, if_pos (accepts_tail small above below 1), if_pos rfl, extend_tail small]

/-- A byte of a tail that is not the last leaves fewer to come. -/
theorem scan_more (remaining : Nat) :
    scan (some ⟨remaining + 2, low, high, bits⟩) (UInt8.ofNat (0x80 + value) :: rest) =
      scan (some ⟨remaining + 1, 0x80, 0xBF, bits * 64 + value⟩) rest := by
  rw [scan, if_pos (accepts_tail small above below _), if_neg (by simp), extend_tail small]
  rfl

end Tail

/-- A first byte opens the sequence that it begins. -/
theorem scan_begins {code : Nat} {sequence : Partial} {rest : List UInt8}
    (begun : start (UInt8.ofNat code) = .begins sequence) :
    scan none (UInt8.ofNat code :: rest) = scan (some sequence) rest := by
  rw [scan, begun]

/-- A sequence of three bytes begins with a byte that bounds the second one: the first such byte keeps overlong forms
out, and another one keeps surrogates out. -/
theorem start_three {code : Nat} (above : 0xE0 ≤ code) (below : code < 0xF0) :
    ∃ low high : UInt8, start (UInt8.ofNat code) = .begins ⟨2, low, high, code - 0xE0⟩ ∧
      (code = 0xE0 ∧ low.toNat = 0xA0 ∨ code ≠ 0xE0 ∧ low.toNat = 0x80) ∧
      (code = 0xED ∧ high.toNat = 0x9F ∨ code ≠ 0xED ∧ high.toNat = 0xBF) := by
  rw [start_small (by omega), if_neg (by omega), if_neg (by omega), if_neg (by omega)]
  by_cases least : code = 0xE0
  · rw [if_pos least]
    subst least
    exact ⟨0xA0, 0xBF, rfl, by decide⟩
  by_cases surrogate : code = 0xED
  · rw [if_neg least, if_pos surrogate]
    subst surrogate
    exact ⟨0x80, 0x9F, rfl, by decide⟩
  · rw [if_neg least, if_neg surrogate, if_pos below]
    exact ⟨0x80, 0xBF, rfl, .inr ⟨least, rfl⟩, .inr ⟨surrogate, rfl⟩⟩

/-- So does a sequence of four bytes, where the last such byte keeps out what is no code any more. -/
theorem start_four {code : Nat} (above : 0xF0 ≤ code) (below : code < 0xF5) :
    ∃ low high : UInt8, start (UInt8.ofNat code) = .begins ⟨3, low, high, code - 0xF0⟩ ∧
      (code = 0xF0 ∧ low.toNat = 0x90 ∨ code ≠ 0xF0 ∧ low.toNat = 0x80) ∧
      (code = 0xF4 ∧ high.toNat = 0x8F ∨ code ≠ 0xF4 ∧ high.toNat = 0xBF) := by
  rw [start_small (by omega), if_neg (by omega), if_neg (by omega), if_neg (by omega), if_neg (by omega),
    if_neg (by omega), if_neg (by omega)]
  by_cases least : code = 0xF0
  · rw [if_pos least]
    subst least
    exact ⟨0x90, 0xBF, rfl, by decide⟩
  by_cases last : code = 0xF4
  · rw [if_neg least, if_neg (by omega), if_pos last]
    subst last
    exact ⟨0x80, 0x8F, rfl, by decide⟩
  · rw [if_neg least, if_pos (by omega)]
    exact ⟨0x80, 0xBF, rfl, .inr ⟨least, rfl⟩, .inr ⟨last, rfl⟩⟩

/-- A character that was written is read back, whatever follows it. -/
theorem scan_encodeChar (value : Char) (rest : List UInt8) :
    scan none (encodeChar value ++ rest) = .character value :: scan none rest := by
  have valid : value.toNat < 0xD800 ∨ 0xDFFF < value.toNat ∧ value.toNat < 0x110000 := value.valid
  have back : Char.ofNat value.toNat = value := Char.ofNat_toNat value
  unfold encodeChar
  generalize value.toNat = code at *
  -- There is one case for each number of bytes, and in each the bits of the code are joined again.
  by_cases one : code < 0x80
  · have whole : start (UInt8.ofNat code) = .whole value := by
      rw [start_small (by omega), if_pos one, back]
    simp only [if_pos one, List.cons_append, List.nil_append, scan, whole]
  by_cases two : code < 0x800
  · have begun : start (UInt8.ofNat (0xC0 + code / 64)) = .begins ⟨1, 0x80, 0xBF, code / 64⟩ := by
      rw [start_small (by omega), if_neg (by omega), if_neg (by omega), if_pos (by omega), Nat.add_sub_cancel_left]
    have joined : code / 64 * 64 + code % 64 = code := by omega
    simp only [if_neg one, if_pos two, List.cons_append, List.nil_append]
    rw [scan_begins begun, scan_last (by omega) (by simp) (by simp; omega), joined, back]
  by_cases three : code < 0x10000
  · obtain ⟨low, high, begun, floor, ceiling⟩ := start_three (Nat.le_add_right 0xE0 (code / 4096)) (by omega)
    rw [Nat.add_sub_cancel_left] at begun
    have joined : (code / 4096 * 64 + code / 64 % 64) * 64 + code % 64 = code := by omega
    simp only [if_neg one, if_neg two, if_pos three, List.cons_append, List.nil_append]
    rw [scan_begins begun, scan_more (by omega) (by omega) (by omega), scan_last (by omega) (by simp) (by simp; omega),
      joined, back]
  · obtain ⟨low, high, begun, floor, ceiling⟩ := start_four (Nat.le_add_right 0xF0 (code / 262144)) (by omega)
    rw [Nat.add_sub_cancel_left] at begun
    have joined : ((code / 262144 * 64 + code / 4096 % 64) * 64 + code / 64 % 64) * 64 + code % 64 = code := by omega
    simp only [if_neg one, if_neg two, if_neg three, List.cons_append, List.nil_append]
    rw [scan_begins begun, scan_more (by omega) (by omega) (by omega), scan_more (by omega) (by simp) (by simp; omega),
      scan_last (by omega) (by simp) (by simp; omega), joined, back]

/-- The bytes of a text are scanned back to its characters. -/
theorem pieces_encodeChars (text : List Char) : pieces (encodeChars text) = text.map .character := by
  unfold pieces
  induction text with
  | nil => rfl
  | cons value rest ih =>
      rw [encodeChars, List.flatMap_cons, scan_encodeChar, List.map_cons]
      exact congrArg (List.cons _) ih

/-- The bytes of a text are read back as the text. -/
theorem decodeLossy_encodeChars (text : List Char) : decodeLossy (encodeChars text) = String.ofList text := by
  rw [decodeLossy, pieces_encodeChars, List.map_map]
  exact congrArg String.ofList (List.map_id text)

/-- Texts that stand together are encoded together. -/
theorem encodeChars_append (front back : List Char) :
    encodeChars (front ++ back) = encodeChars front ++ encodeChars back :=
  List.flatMap_append

/-- The bytes are those that the standard library encodes the text with. -/
theorem encodeChars_toByteArray (text : List Char) : (encodeChars text).toByteArray = text.utf8Encode := by
  rw [List.utf8Encode, encodeChars, funext encodeChar_eq]

/-- Bytes that are valid in the sense of the standard library are the bytes of some text. -/
theorem exists_encodeChars {bytes : List UInt8} (valid : bytes.toByteArray.IsValidUTF8) :
    ∃ text, bytes = encodeChars text := by
  obtain ⟨text, same⟩ := valid
  exact ⟨text, List.toByteArray_inj.mp (same.trans (encodeChars_toByteArray text).symm)⟩

/-- A text is as wide as the standard library measures it. -/
theorem width_eq (text : List Char) : (encodeChars text).length = (String.ofList text).utf8ByteSize := by
  rw [String.utf8ByteSize, String.toByteArray_ofList, ← encodeChars_toByteArray, List.size_toByteArray]

section Zero

/-- Only the zero character has a zero byte. -/
theorem zero_mem_encodeChar (value : Char) : 0 ∈ encodeChar value ↔ value = Char.ofNat 0 := by
  have zero {code : Nat} (small : code < 256) : (0 : UInt8) = UInt8.ofNat code ↔ code = 0 := by
    rw [← UInt8.toNat_inj, toNat_small small]
    exact eq_comm
  have valid : value.toNat < 0xD800 ∨ 0xDFFF < value.toNat ∧ value.toNat < 0x110000 := value.valid
  have named : value = Char.ofNat 0 ↔ value.toNat = 0 := by
    refine ⟨fun same => same ▸ rfl, fun none => ?_⟩
    rw [← Char.ofNat_toNat value, none]
  rw [named]
  unfold encodeChar
  generalize value.toNat = code at *
  by_cases one : code < 0x80
  · simp only [if_pos one, List.mem_singleton, zero (by omega : code < 256)]
  by_cases two : code < 0x800
  · simp only [if_neg one, if_pos two, List.mem_cons, List.not_mem_nil, or_false,
      zero (by omega : 0xC0 + code / 64 < 256), zero (by omega : 0x80 + code % 64 < 256)]
    omega
  by_cases three : code < 0x10000
  · simp only [if_neg one, if_neg two, if_pos three, List.mem_cons, List.not_mem_nil, or_false,
      zero (by omega : 0xE0 + code / 4096 < 256), zero (by omega : 0x80 + code / 64 % 64 < 256),
      zero (by omega : 0x80 + code % 64 < 256)]
    omega
  · simp only [if_neg one, if_neg two, if_neg three, List.mem_cons, List.not_mem_nil, or_false,
      zero (by omega : 0xF0 + code / 262144 < 256), zero (by omega : 0x80 + code / 4096 % 64 < 256),
      zero (by omega : 0x80 + code / 64 % 64 < 256), zero (by omega : 0x80 + code % 64 < 256)]
    omega

/-- To cut bytes at the first zero is to cut the text there. -/
theorem takeWhile_encodeChars (text : List Char) :
    (encodeChars text).takeWhile (· ≠ 0) = encodeChars (text.takeWhile (· ≠ Char.ofNat 0)) := by
  induction text with
  | nil => rfl
  | cons value rest ih =>
      by_cases zero : value = Char.ofNat 0
      · subst zero
        rfl
      · have passes : ∀ byte ∈ encodeChar value, decide (byte ≠ 0) = true := fun byte held =>
          decide_eq_true fun same => zero ((zero_mem_encodeChar value).mp (same ▸ held))
        have kept : (value :: rest).takeWhile (· ≠ Char.ofNat 0) = value :: rest.takeWhile (· ≠ Char.ofNat 0) :=
          List.takeWhile_cons_of_pos (decide_eq_true zero)
        rw [kept, encodeChars, List.flatMap_cons, List.takeWhile_append_of_pos passes]
        exact congrArg (encodeChar value ++ ·) ih

end Zero

section Fitting

/-- What fits is a beginning of the text. -/
theorem fitting_opens (room : Nat) (text : List Char) : fitting room text <+: text := by
  induction text generalizing room with
  | nil => exact List.prefix_refl _
  | cons value rest ih =>
      rw [fitting]
      split
      · exact List.cons_prefix_cons.mpr ⟨rfl, ih _⟩
      · exact List.nil_prefix

/-- What fits is not wider than the room. -/
theorem fitting_width (room : Nat) (text : List Char) : (encodeChars (fitting room text)).length ≤ room := by
  induction text generalizing room with
  | nil => exact Nat.zero_le room
  | cons value rest ih =>
      rw [fitting]
      split
      · next fits =>
          have after := ih (room - (encodeChar value).length)
          rw [encodeChars, List.flatMap_cons, List.length_append]
          rw [encodeChars] at after
          omega
      · exact Nat.zero_le room

/-- No longer opening part fits. -/
theorem prefix_fitting {room : Nat} {part text : List Char} (opening : part <+: text)
    (fits : (encodeChars part).length ≤ room) : part <+: fitting room text := by
  induction text generalizing room part with
  | nil => exact (List.prefix_nil.mp opening) ▸ List.nil_prefix
  | cons value rest ih =>
      cases part with
      | nil => exact List.nil_prefix
      | cons first later =>
          obtain ⟨rfl, others⟩ := List.cons_prefix_cons.mp opening
          rw [encodeChars, List.flatMap_cons, List.length_append] at fits
          have needed : (encodeChar first).length ≤ room := by omega
          rw [fitting, if_pos needed]
          refine List.cons_prefix_cons.mpr ⟨rfl, ih others ?_⟩
          rw [encodeChars]
          omega

/-- A text that fits is kept whole. -/
theorem fitting_eq {room : Nat} {text : List Char} (fits : (encodeChars text).length ≤ room) :
    fitting room text = text :=
  (fitting_opens room text).eq_of_length_le (prefix_fitting (List.prefix_refl text) fits).length_le

end Fitting

end ScriptHost.Text.Utf8
