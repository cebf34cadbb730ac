/-
This file reads and writes the byte form of text.
-/

namespace ScriptHost.Text.Utf8

/-- This is one place of a byte string that is read as text. -/
inductive Piece where
  | character (value : Char)
  | damaged
  deriving DecidableEq, Repr

/-- A sequence that has begun: the bytes still missing, the range of the next one, and the bits so far. -/
structure Partial where
  remaining : Nat
  low : UInt8
  high : UInt8
  bits : Nat
  deriving DecidableEq, Repr

/-- This says what a byte can be where a new character is due. -/
inductive Start where
  | whole (value : Char)
  | begins (sequence : Partial)
  | stray

/-- The range of the second byte excludes overlong forms, surrogates and values past the last code point. -/
def start (byte : UInt8) : Start :=
  if byte < 0x80 then .whole (Char.ofNat byte.toNat)
  else if byte < 0xC2 then .stray
  else if byte < 0xE0 then .begins ⟨1, 0x80, 0xBF, byte.toNat - 0xC0⟩
  else if byte = 0xE0 then .begins ⟨2, 0xA0, 0xBF, 0⟩
  else if byte = 0xED then .begins ⟨2, 0x80, 0x9F, 0xD⟩
  else if byte < 0xF0 then .begins ⟨2, 0x80, 0xBF, byte.toNat - 0xE0⟩
  else if byte = 0xF0 then .begins ⟨3, 0x90, 0xBF, 0⟩
  else if byte < 0xF4 then .begins ⟨3, 0x80, 0xBF, byte.toNat - 0xF0⟩
  else if byte = 0xF4 then .begins ⟨3, 0x80, 0x8F, 4⟩
  else .stray

def Partial.accepts (sequence : Partial) (byte : UInt8) : Bool :=
  sequence.low ≤ byte && byte ≤ sequence.high

def Partial.extend (sequence : Partial) (byte : UInt8) : Partial :=
  ⟨sequence.remaining - 1, 0x80, 0xBF, sequence.bits * 64 + (byte.toNat - 0x80)⟩

/-- A sequence cut short counts as one damaged place, and the byte that cut it is read afresh. -/
def scan : Option Partial → List UInt8 → List Piece
  | none, [] => []
  | some _, [] => [.damaged]
  | none, byte :: rest =>
      match start byte with
      | .whole value => .character value :: scan none rest
      | .begins sequence => scan (some sequence) rest
      | .stray => .damaged :: scan none rest
  | some sequence, byte :: rest =>
      if sequence.accepts byte then
        if sequence.remaining = 1 then
          .character (Char.ofNat (sequence.extend byte).bits) :: scan none rest
        else scan (some (sequence.extend byte)) rest
      else
        match start byte with
        | .whole value => .damaged :: .character value :: scan none rest
        | .begins next => .damaged :: scan (some next) rest
        | .stray => .damaged :: .damaged :: scan none rest

def pieces (bytes : List UInt8) : List Piece :=
  scan none bytes

/-- Every damaged place is shown as one replacement character. -/
def Piece.shown : Piece → Char
  | .character value => value
  | .damaged => Char.ofNat 0xFFFD

def decodeLossy (bytes : List UInt8) : String :=
  String.ofList ((pieces bytes).map Piece.shown)

def Piece.character? : Piece → Option Char
  | .character value => some value
  | .damaged => none

/-- Text is read only if no place of it is damaged. -/
def decode? (bytes : List UInt8) : Option String :=
  ((pieces bytes).mapM Piece.character?).map String.ofList

/-- This is the first damaged place of a byte string, which may lack only its last bytes. -/
inductive Damage where
  | incomplete (index : Nat)
  | invalid (length index : Nat)
  deriving DecidableEq, Repr

def Damage.message : Damage → String
  | .incomplete index => s!"incomplete utf-8 byte sequence from index {index}"
  | .invalid length index => s!"invalid utf-8 sequence of {length} bytes from index {index}"

/-- The first number counts the bytes up to the open sequence, and the second one its bytes. -/
def findDamage : Nat → Nat → Option Partial → List UInt8 → Option Damage
  | _, _, none, [] => none
  | index, _, some _, [] => some (.incomplete index)
  | index, _, none, byte :: rest =>
      match start byte with
      | .whole _ => findDamage (index + 1) 0 none rest
      | .begins sequence => findDamage index 1 (some sequence) rest
      | .stray => some (.invalid 1 index)
  | index, length, some sequence, byte :: rest =>
      if sequence.accepts byte then
        if sequence.remaining = 1 then findDamage (index + length + 1) 0 none rest
        else findDamage index (length + 1) (some (sequence.extend byte)) rest
      else some (.invalid length index)

def damage? (bytes : List UInt8) : Option Damage :=
  findDamage 0 0 none bytes

def encodeChar (value : Char) : List UInt8 :=
  let code := value.toNat
  if code < 0x80 then [UInt8.ofNat code]
  else if code < 0x800 then
    [UInt8.ofNat (0xC0 + code / 64), UInt8.ofNat (0x80 + code % 64)]
  else if code < 0x10000 then
    [UInt8.ofNat (0xE0 + code / 4096), UInt8.ofNat (0x80 + code / 64 % 64),
      UInt8.ofNat (0x80 + code % 64)]
  else
    [UInt8.ofNat (0xF0 + code / 262144), UInt8.ofNat (0x80 + code / 4096 % 64),
      UInt8.ofNat (0x80 + code / 64 % 64), UInt8.ofNat (0x80 + code % 64)]

def encodeChars (text : List Char) : List UInt8 :=
  text.flatMap encodeChar

def encode (text : String) : List UInt8 :=
  encodeChars text.toList

def width (text : List Char) : Nat :=
  (encodeChars text).length

/-- This is the longest opening part of the text that fits into `room` bytes. -/
def fitting : Nat → List Char → List Char
  | _, [] => []
  | room, value :: rest =>
      let needed := (encodeChar value).length
      if needed ≤ room then value :: fitting (room - needed) rest else []

end ScriptHost.Text.Utf8
