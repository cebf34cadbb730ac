/-
This file reads back the numbers that events carry in their payloads.
-/
import Mathlib.Algebra.Group.Nat.Defs
import ScriptHost.Event.Builtin

namespace ScriptHost.Event

/-- A number has as many bytes as its width. -/
theorem littleEndian_length (width value : Nat) : (littleEndian width value).length = width := by
  induction width generalizing value with
  | zero => rfl
  | succ width ih => rw [littleEndian, List.length_cons, ih]

/-- As many bytes as there are keep the number modulo their room. -/
theorem fromLittleEndian_littleEndian (width value : Nat) :
    fromLittleEndian (littleEndian width value) = value % 256 ^ width := by
  induction width generalizing value with
  | zero => rw [Nat.pow_zero, Nat.mod_one]; rfl
  | succ width ih =>
      have low : (UInt8.ofNat (value % 256)).toNat = value % 256 := by
        rw [UInt8.toNat_ofNat']
        exact Nat.mod_mod value 256
      rw [littleEndian, fromLittleEndian, ih, low, Nat.pow_succ', Nat.mod_mul]

/-- So many bytes hold no larger number. -/
theorem fromLittleEndian_lt (bytes : List UInt8) : fromLittleEndian bytes < 256 ^ bytes.length := by
  induction bytes with
  | nil => exact Nat.one_pos
  | cons byte rest ih =>
      have bound := byte.toNat_lt
      rw [fromLittleEndian, List.length_cons, Nat.pow_succ']
      omega

/-- Bytes are encoded as the number that was read from them. -/
theorem littleEndian_fromLittleEndian (bytes : List UInt8) :
    littleEndian bytes.length (fromLittleEndian bytes) = bytes := by
  induction bytes with
  | nil => rfl
  | cons byte rest ih =>
      have bound := byte.toNat_lt
      have low : (byte.toNat + 256 * fromLittleEndian rest) % 256 = byte.toNat := by omega
      have high : (byte.toNat + 256 * fromLittleEndian rest) / 256 = fromLittleEndian rest := by omega
      rw [List.length_cons, littleEndian, fromLittleEndian, low, high, ih, UInt8.ofNat_toNat]

/-- A field of a payload stands between what comes before it and what comes after. -/
theorem field_append (front field back : List UInt8) :
    ((front ++ (field ++ back)).drop front.length).take field.length = field := by
  rw [List.drop_left, List.take_left]

/-- A word has eight bytes. -/
theorem word_length (value : UInt64) : (word value).length = 8 :=
  littleEndian_length 8 _

/-- A tile has four bytes. -/
theorem tile_length (value : Int32) : (tile value).length = 4 :=
  littleEndian_length 4 _

/-- A word is read where it was written. -/
theorem readWord_append (front back : List UInt8) (value : UInt64) :
    readWord (front ++ (word value ++ back)) front.length = value := by
  have field := field_append front (word value) back
  rw [word_length] at field
  have room : value.toNat % 256 ^ 8 = value.toNat := Nat.mod_eq_of_lt value.toNat_lt
  rw [readWord, field, word, fromLittleEndian_littleEndian, room, UInt64.ofNat_toNat]

/-- A tile is read where it was written. -/
theorem readTile_append (front back : List UInt8) (value : Int32) :
    readTile (front ++ (tile value ++ back)) front.length = value := by
  have field := field_append front (tile value) back
  rw [tile_length] at field
  have room : value.toUInt32.toNat % 256 ^ 4 = value.toUInt32.toNat := Nat.mod_eq_of_lt value.toUInt32.toNat_lt
  rw [readTile, field, tile, fromLittleEndian_littleEndian, room, UInt32.ofNat_toNat, Int32.toInt32_toUInt32]

/-- A field of a payload is encoded as it was read. -/
theorem littleEndian_field {payload : Payload} {start width : Nat} (room : start + width ≤ payload.length) :
    littleEndian width (fromLittleEndian ((payload.drop start).take width) % 256 ^ width) =
      (payload.drop start).take width := by
  have length : ((payload.drop start).take width).length = width := by
    rw [List.length_take, List.length_drop]
    omega
  have bound := fromLittleEndian_lt ((payload.drop start).take width)
  have back := littleEndian_fromLittleEndian ((payload.drop start).take width)
  rw [length] at bound back
  rw [Nat.mod_eq_of_lt bound, back]

/-- A word of a payload is encoded as it was read. -/
theorem word_readWord {payload : Payload} {start : Nat} (room : start + 8 ≤ payload.length) :
    word (readWord payload start) = (payload.drop start).take 8 := by
  rw [word, readWord, UInt64.toNat_ofNat']
  exact littleEndian_field room

/-- A tile of a payload is encoded as it was read. -/
theorem tile_readTile {payload : Payload} {start : Nat} (room : start + 4 ≤ payload.length) :
    tile (readTile payload start) = (payload.drop start).take 4 := by
  rw [tile, readTile, UInt32.toUInt32_toInt32, UInt32.toNat_ofNat']
  exact littleEndian_field room

/-- A word alone is read back. -/
theorem readWord_word (value : UInt64) : readWord (word value) 0 = value := by
  have whole : (word value).take 8 = word value := List.take_of_length_le (Nat.le_of_eq (littleEndian_length 8 _))
  have room : value.toNat % 256 ^ 8 = value.toNat := Nat.mod_eq_of_lt value.toNat_lt
  rw [readWord, List.drop_zero, whole, word, fromLittleEndian_littleEndian, room, UInt64.ofNat_toNat]

/-- A native tick arrives with its index. -/
theorem decode_logicTick (index : UInt64) :
    Kind.logicTick.decode (Builtin.logicTick index).encode = .ok (.logicTick index) := by
  have size : (Builtin.logicTick index).encode.length = Kind.logicTick.size := littleEndian_length 8 _
  rw [Kind.decode, if_pos size]
  exact congrArg (fun index => Except.ok (Builtin.logicTick index)) (readWord_word index)

end ScriptHost.Event
