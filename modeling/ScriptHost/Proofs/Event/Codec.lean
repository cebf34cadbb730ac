/-
This file shows that events come back from their payloads, and payloads from the events that are read in them.
-/
import ScriptHost.Proofs.Event.Encoding
import ScriptHost.Proofs.Event.Ledger
import ScriptHost.Proofs.Session.Together
import ScriptHost.Proofs.Text.Utf8

namespace ScriptHost.Event

open Text

/-- The zero character ends a state name, and the room for it is counted in bytes. -/
structure Kept (state kept : String) : Prop where
  opening : kept.toList <+: state.toList
  clean : Char.ofNat 0 ∉ kept.toList
  fits : kept.utf8ByteSize ≤ Kind.stateRoom
  longest : ∀ other : String, other.toList <+: state.toList → Char.ofNat 0 ∉ other.toList →
    other.utf8ByteSize ≤ Kind.stateRoom → other.toList <+: kept.toList

/-- Only the name of a state can come back changed. -/
def Builtin.ComesBackAs : Builtin → Builtin → Prop
  | .stateEntered entity state, back => ∃ kept, Kept state kept ∧ back = .stateEntered entity kept
  | event, back => back = event

/-- These are the bytes of the name in the payload of a state event. -/
def nameBytes (payload : Payload) : List UInt8 :=
  (payload.drop 8).takeWhile (· ≠ 0)

def keptName (state : String) : String :=
  String.ofList ((Utf8.fitting Kind.stateRoom state.toList).takeWhile (· ≠ Char.ofNat 0))

/-- A text has as many bytes as its encoding. -/
theorem utf8ByteSize_eq (text : String) : text.utf8ByteSize = (Utf8.encodeChars text.toList).length := by
  rw [Utf8.width_eq, String.ofList_toList]

section Kept

variable (state : String)

/-- A kept name is as much as fits, up to the first zero. -/
theorem keptName_toList :
    (keptName state).toList = (Utf8.fitting Kind.stateRoom state.toList).takeWhile (· ≠ Char.ofNat 0) :=
  String.toList_ofList

/-- A kept name has no zero. -/
theorem not_mem_keptName : Char.ofNat 0 ∉ (keptName state).toList := by
  rw [keptName_toList]
  intro held
  have passes := List.mem_takeWhile_imp (p := (· ≠ Char.ofNat 0)) held
  exact of_decide_eq_true passes rfl

/-- A kept name fits into its field. -/
theorem keptName_fits : (Utf8.encodeChars (keptName state).toList).length ≤ Kind.stateRoom := by
  obtain ⟨cut, whole⟩ := List.takeWhile_prefix (· ≠ Char.ofNat 0) (l := Utf8.fitting Kind.stateRoom state.toList)
  have room := Utf8.fitting_width Kind.stateRoom state.toList
  rw [← whole, Utf8.encodeChars_append, List.length_append] at room
  rw [keptName_toList]
  omega

/-- What is kept of a name is the longest part that fits. -/
theorem kept_keptName : Kept state (keptName state) where
  opening := by
    rw [keptName_toList]
    exact (List.takeWhile_prefix _).trans (Utf8.fitting_opens _ _)
  clean := not_mem_keptName state
  fits := by
    rw [utf8ByteSize_eq]
    exact keptName_fits state
  longest other opening clean fits := by
    rw [utf8ByteSize_eq] at fits
    obtain ⟨cut, whole⟩ := Utf8.prefix_fitting opening fits
    have passes : ∀ value ∈ other.toList, decide (value ≠ Char.ofNat 0) = true := fun value held =>
      decide_eq_true fun same => clean (same ▸ held)
    rw [keptName_toList, ← whole, List.takeWhile_append_of_pos passes]
    exact List.prefix_append _ _

/-- A name that was kept once is kept as it is. -/
theorem keptName_keptName : keptName (keptName state) = keptName state := by
  have whole : (keptName state).toList.takeWhile (· ≠ Char.ofNat 0) = (keptName state).toList :=
    List.takeWhile_eq_self_iff.mpr fun value held =>
      decide_eq_true fun same => not_mem_keptName state (same ▸ held)
  rw [keptName, Utf8.fitting_eq (keptName_fits state), whole, String.ofList_toList]

end Kept

section StateField

/-- The field of a name has a fixed length. -/
theorem stateField_length (state : String) : (stateField state).length = Kind.stateRoom := by
  have room := Utf8.fitting_width Kind.stateRoom state.toList
  rw [stateField, List.length_append, List.length_replicate]
  omega

/-- Zeros behind a text are not read. -/
theorem takeWhile_zeros (bytes : List UInt8) (count : Nat) :
    (bytes ++ List.replicate count 0).takeWhile (· ≠ 0) = bytes.takeWhile (· ≠ 0) := by
  induction bytes with
  | nil => cases count <;> rfl
  | cons byte rest ih =>
      rw [List.cons_append, List.takeWhile_cons, List.takeWhile_cons, ih]

/-- The field of a name is read as what was kept of it. -/
theorem readState_stateField (state : String) : readState (stateField state) = keptName state := by
  rw [readState, stateField, takeWhile_zeros, Utf8.takeWhile_encodeChars, Utf8.decodeLossy_encodeChars, keptName]

/-- Bytes that are text and fit the room are written as they were read, and zeros follow. -/
theorem stateField_readState {field : List UInt8} (size : field.length = Kind.stateRoom)
    (valid : (field.takeWhile (· ≠ 0)).toByteArray.IsValidUTF8) :
    stateField (readState field) =
      field.takeWhile (· ≠ 0) ++ List.replicate (Kind.stateRoom - (field.takeWhile (· ≠ 0)).length) 0 := by
  obtain ⟨text, same⟩ := Utf8.exists_encodeChars valid
  have fits : (Utf8.encodeChars text).length ≤ Kind.stateRoom := by
    rw [← same, ← size]
    exact (List.takeWhile_prefix _).length_le
  rw [readState, same, Utf8.decodeLossy_encodeChars, stateField, String.toList_ofList, Utf8.fitting_eq fits]

end StateField

section Events

/-- An encoded event has the size of its kind. -/
theorem encode_length (event : Builtin) : event.encode.length = event.kind.size := by
  cases event <;>
    simp only [Builtin.encode, Builtin.kind, Kind.size, List.length_append, word_length, tile_length,
      stateField_length]

def Builtin.settled : Builtin → Builtin
  | .stateEntered entity state => .stateEntered entity (keptName state)
  | event => event

/-- Settling an event leaves its kind. -/
theorem settled_kind (event : Builtin) : event.settled.kind = event.kind := by
  cases event <;> rfl

/-- Settling twice is settling once. -/
theorem settled_settled (event : Builtin) : event.settled.settled = event.settled := by
  cases event with
  | stateEntered entity state => exact congrArg (Builtin.stateEntered entity) (keptName_keptName state)
  | _ => rfl

/-- A settled event comes back as it is. -/
theorem comesBackAs_settled (event : Builtin) : event.ComesBackAs event.settled := by
  cases event with
  | stateEntered entity state => exact ⟨keptName state, kept_keptName state, rfl⟩
  | _ => rfl

/-- An entity and its tile are read where they were written. -/
theorem read_move (entity : Entity) (x y : Int32) :
    let payload := word entity.bits ++ tile x ++ tile y
    readWord payload 0 = entity.bits ∧ readTile payload 8 = x ∧ readTile payload 12 = y := by
  intro payload
  have bits := readWord_append [] (tile x ++ tile y) entity.bits
  have first := readTile_append (word entity.bits) (tile y) x
  have second := readTile_append (word entity.bits ++ tile x) [] y
  rw [word_length, ← List.append_assoc] at first
  rw [List.length_append, word_length, tile_length, List.append_nil] at second
  rw [List.nil_append, ← List.append_assoc] at bits
  exact ⟨bits, first, second⟩

/-- What is read from an encoded event is the settled one. -/
theorem ofPayload_encode (event : Builtin) : Builtin.ofPayload event.encode event.kind = event.settled := by
  cases event with
  | logicTick index => exact congrArg Builtin.logicTick (readWord_word index)
  | movementStarted entity x y =>
      obtain ⟨bits, first, second⟩ := read_move entity x y
      simp only [Builtin.ofPayload, Builtin.kind, Builtin.encode, Builtin.settled, bits, first, second]
  | movementCompleted entity x y =>
      obtain ⟨bits, first, second⟩ := read_move entity x y
      simp only [Builtin.ofPayload, Builtin.kind, Builtin.encode, Builtin.settled, bits, first, second]
  | animationFinished entity => exact congrArg (fun bits => Builtin.animationFinished ⟨bits⟩) (readWord_word _)
  | stateEntered entity state =>
      have bits : readWord (word entity.bits ++ stateField state) 0 = entity.bits :=
        readWord_append [] (stateField state) entity.bits
      have field : (word entity.bits ++ stateField state).drop 8 = stateField state := by
        rw [← word_length entity.bits, List.drop_left]
      simp only [Builtin.ofPayload, Builtin.kind, Builtin.encode, Builtin.settled, bits, field, readState_stateField]
  | frameRender state => exact congrArg Builtin.frameRender (readWord_word state)

/-- An event is decoded as its settled form. -/
theorem decode_encode (event : Builtin) : decode event.name event.encode = some (.ok event.settled) := by
  rw [decode, Builtin.name, Kind.ofName?_name, Option.map_some, Kind.decode, if_pos (encode_length event),
    ofPayload_encode]

/-- A settled event is decoded as itself. -/
theorem decode_settled (event : Builtin) :
    decode event.settled.name event.settled.encode = some (.ok event.settled) := by
  rw [decode_encode, settled_settled]

end Events

section Payloads

variable {kind : Kind} {payload : Payload}

/-- A payload is decoded exactly if it has the size of its kind. -/
theorem decode_ok_iff (event : Builtin) :
    decode kind.name payload = some (.ok event) ↔
      payload.length = kind.size ∧ Builtin.ofPayload payload kind = event := by
  rw [decode, Kind.ofName?_name, Option.map_some, Kind.decode]
  split
  · next size => simp only [Option.some.injEq, Except.ok.injEq, size, true_and]
  · next size => simp only [Option.some.injEq, reduceCtorEq, size, false_and]

/-- An entity and a tile are encoded as they were read. -/
theorem encode_move (size : payload.length = 16) :
    word (readWord payload 0) ++ tile (readTile payload 8) ++ tile (readTile payload 12) = payload := by
  rw [word_readWord (by omega), tile_readTile (by omega), tile_readTile (by omega), List.drop_zero,
    ← List.take_add, List.take_of_length_le (l := payload.drop 12) (by rw [List.length_drop]; omega),
    List.take_append_drop]

/-- A number is encoded as it was read. -/
theorem encode_word (size : payload.length = 8) : word (readWord payload 0) = payload := by
  rw [word_readWord (by omega), List.drop_zero, List.take_of_length_le (by omega)]

/-- Without a state name every byte of a payload counts. -/
theorem encode_ofPayload (size : payload.length = kind.size) (other : kind ≠ .stateEntered) :
    (Builtin.ofPayload payload kind).encode = payload := by
  cases kind with
  | logicTick => exact encode_word size
  | movementStarted => exact encode_move size
  | movementCompleted => exact encode_move size
  | animationFinished => exact encode_word size
  | stateEntered => exact absurd rfl other
  | frameRender => exact encode_word size

/-- A name that is valid is encoded as it was read, with zeros behind it. -/
theorem encode_state (size : payload.length = Kind.stateEntered.size)
    (valid : (nameBytes payload).toByteArray.IsValidUTF8) :
    (Builtin.ofPayload payload .stateEntered).encode =
      payload.take (8 + (nameBytes payload).length) ++
        List.replicate (Kind.stateRoom - (nameBytes payload).length) 0 := by
  have room : (payload.drop 8).length = Kind.stateRoom := by
    rw [List.length_drop, size, Kind.size, Nat.add_sub_cancel_left]
  have name : nameBytes payload = (payload.drop 8).take (nameBytes payload).length :=
    List.prefix_iff_eq_take.mp (List.takeWhile_prefix _)
  have field := stateField_readState room valid
  have bits : word (readWord payload 0) = payload.take 8 := by
    rw [word_readWord (by rw [size]; decide), List.drop_zero]
  rw [Builtin.ofPayload, Builtin.encode, bits, field, List.take_add, ← name, List.append_assoc]
  rfl

end Payloads

end ScriptHost.Event

namespace ScriptHost.Session

open Event

/-- An event reaches its subscribers as it comes back from its payload. -/
theorem Events.publish_eq (call : Caller) (event : Builtin) :
    Events.publish call event = do
      let subscribers := (← get).bridge.typed.under event.kind
      Events.deliver event.name (Events.callHandler call event.settled) subscribers
      return .typed subscribers.length := by
  have decoded : event.kind.decode event.encode = .ok event.settled := by
    rw [Kind.decode, if_pos (encode_length event), ofPayload_encode]
  simp only [Events.publish, Events.dispatch, Builtin.name, Kind.ofName?_name, decoded]

/-- Publishing an event publishes its settled form. -/
theorem Events.publish_settled (call : Caller) (event : Builtin) :
    Events.publish call event.settled = Events.publish call event := by
  rw [publish_eq, publish_eq, settled_settled, Builtin.name, Builtin.name, settled_kind]

/-- Only a subscriber can keep an event from being answered with the number of its subscribers. -/
theorem Events.publish_run (call : Caller) (event : Builtin) (world : World) :
    (Events.publish call event).run.run world =
      match (Events.deliver event.name (Events.callHandler call event.settled)
        (world.bridge.typed.under event.kind)).run.run world with
      | (.ok _, after) => (.ok (.typed (world.bridge.typed.under event.kind).length), after)
      | (.error raised, after) => (.error raised, after) := by
  rw [publish_eq, Stateful.run_get, Stateful.run_bind]
  rcases (Events.deliver event.name (Events.callHandler call event.settled)
    (world.bridge.typed.under event.kind)).run.run world with ⟨raised | value, after⟩
  · rfl
  · rfl

/-- The state of this payload is called "hi", and a byte stands after the zero that ends the name. -/
def untidyPayload : Payload :=
  [7, 0, 0, 0, 0, 0, 0, 0, 104, 105, 0, 1] ++ List.replicate 60 0

/-- Every event comes back from its payload, and every payload of the right size from its event. -/
theorem codecs_invert_each_other :
    (∀ event : Builtin, event.encode.length = event.kind.size ∧
      ∃ back, decode event.name event.encode = some (.ok back) ∧ event.ComesBackAs back ∧
        back.name = event.name ∧ decode back.name back.encode = some (.ok back) ∧
        ∀ call : Caller, Events.publish call back = Events.publish call event ∧
          ∀ world : World, (Events.publish call event).run.run world =
            match (Events.deliver event.name (Events.callHandler call back)
              (world.bridge.typed.under event.kind)).run.run world with
            | (.ok _, after) => (.ok (.typed (world.bridge.typed.under event.kind).length), after)
            | (.error raised, after) => (.error raised, after)) ∧
    ∀ (kind : Kind) (payload : Payload),
      ((∃ event, decode kind.name payload = some (.ok event)) ↔ payload.length = kind.size) ∧
      ∀ event, decode kind.name payload = some (.ok event) → event.kind = kind ∧
        (kind ≠ .stateEntered → event.encode = payload) ∧
        (kind = .stateEntered → (nameBytes payload).toByteArray.IsValidUTF8 →
          event.encode = payload.take (8 + (nameBytes payload).length) ++
            List.replicate (Kind.stateRoom - (nameBytes payload).length) 0) := by
  refine ⟨fun event => ⟨encode_length event, event.settled, decode_encode event, comesBackAs_settled event,
    congrArg Kind.name (settled_kind event), decode_settled event, fun call =>
      ⟨Events.publish_settled call event, Events.publish_run call event⟩⟩, fun kind payload => ⟨?_, ?_⟩⟩
  · simp only [decode_ok_iff, exists_and_left, exists_eq', and_true]
  · rintro event decoded
    obtain ⟨size, rfl⟩ := (decode_ok_iff event).mp decoded
    refine ⟨by cases kind <;> rfl, encode_ofPayload size, ?_⟩
    rintro rfl valid
    exact encode_state size valid

/-- Behind the name of an untidy payload zeros come back. -/
theorem codecs_invert_each_other_untidy :
    (Events.publish (caller 0) (.frameRender 3)).run.run (.create ⟨[], []⟩ .lowest) =
        (.ok (.typed 0), .create ⟨[], []⟩ .lowest) ∧
      (Builtin.ofPayload untidyPayload .stateEntered).encode = untidyPayload.take 10 ++ List.replicate 62 0 := by
  obtain ⟨backAgain, forthAgain⟩ := codecs_invert_each_other
  constructor
  · obtain ⟨-, back, -, -, -, -, reaches⟩ := backAgain (.frameRender 3)
    exact (reaches (caller 0)).2 (.create ⟨[], []⟩ .lowest)
  · obtain ⟨-, reread⟩ := forthAgain .stateEntered untidyPayload
    have decoded := (decode_ok_iff (Builtin.ofPayload untidyPayload .stateEntered)).mpr ⟨rfl, rfl⟩
    exact (reread _ decoded).2.2 rfl ⟨['h', 'i'], by decide⟩

end ScriptHost.Session
