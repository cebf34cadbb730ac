/-
This file shows that values of scripts which have an exact JSON form come back from it as they were.
-/
import ScriptHost.Proofs.Json.Values
import ScriptHost.Script.Exchange

namespace ScriptHost.Script.Value

mutual

/-- The value is made of units, truths, integers, texts, arrays and maps alone. -/
def Storable : Value → Prop
  | .unit | .boolean _ | .integer _ | .string _ => True
  | .array items => StorableItems items
  | .map entries => (entries.map Prod.fst).Pairwise (· < ·) ∧ StorableEntries entries
  | .float _ | .character _ | .range .. | .engine => False

def StorableItems : List Value → Prop
  | [] => True
  | item :: rest => item.Storable ∧ StorableItems rest

def StorableEntries : List (String × Value) → Prop
  | [] => True
  | (_, value) :: rest => value.Storable ∧ StorableEntries rest

end

mutual

/-- This counts how deep arrays and maps nest. -/
def depth : Value → Nat
  | .array items => itemDepth items + 1
  | .map entries => entryDepth entries + 1
  | .unit | .boolean _ | .integer _ | .float _ | .character _ | .string _ | .range .. | .engine => 0

def itemDepth : List Value → Nat
  | [] => 0
  | item :: rest => max item.depth (itemDepth rest)

def entryDepth : List (String × Value) → Nat
  | [] => 0
  | (_, value) :: rest => max value.depth (entryDepth rest)

end

/-- Integers become whole numbers. -/
theorem toNumber_whole (value : Int64) : (toNumber value).Whole := by
  unfold toNumber
  split
  · next below => exact below
  · trivial

/-- Integers come back from their numbers. -/
theorem ofNumber_toNumber (value : Int64) : ofNumber (toNumber value) = .integer value := by
  unfold toNumber
  split
  · rfl
  · next above =>
      have small : value.toUInt64.toNat < 0x8000000000000000 := by
        rw [Int64.toNat_toUInt64_of_le (Int64.not_lt.mp above)]
        exact Int64.toNatClampNeg_lt value
      rw [ofNumber, if_pos small, Int64.toInt64_toUInt64]

mutual

/-- The JSON form is exact, nests as deep, and has the value as its meaning. -/
theorem toJson?_storable (value : Value) (storable : value.Storable) :
    ∃ json, value.toJson? = some json ∧ json.Exact ∧ json.depth = value.depth ∧ ofJson json = value := by
  match value with
  | .unit => exact ⟨.null, rfl, trivial, rfl, rfl⟩
  | .boolean value => exact ⟨.boolean value, rfl, trivial, rfl, rfl⟩
  | .integer value => exact ⟨.number (toNumber value), rfl, toNumber_whole value, rfl, ofNumber_toNumber value⟩
  | .string text => exact ⟨.string text, rfl, trivial, rfl, rfl⟩
  | .array items =>
      obtain ⟨values, written, precise, depths, back⟩ := toJsonItems?_storable items storable
      refine ⟨.array values, ?_, precise, congrArg (· + 1) depths, congrArg Value.array back⟩
      rw [toJson?, written]
      rfl
  | .map entries =>
      obtain ⟨members, written, precise, names, depths, back⟩ := toJsonMembers?_storable entries storable.2
      refine ⟨.object members, ?_, ⟨?_, precise⟩, congrArg (· + 1) depths, congrArg Value.map back⟩
      · rw [toJson?, written]
        rfl
      · rw [names]
        exact storable.1

/-- Items that can be stored come back from their values. -/
theorem toJsonItems?_storable (items : List Value) (storable : StorableItems items) :
    ∃ values, toJsonItems? items = some values ∧ Json.Value.ExactItems values ∧
      Json.Value.itemDepth values = itemDepth items ∧ ofJsonItems values = items := by
  match items with
  | [] => exact ⟨[], rfl, trivial, rfl, rfl⟩
  | item :: rest =>
      obtain ⟨value, written, precise, depth, back⟩ := toJson?_storable item storable.1
      obtain ⟨values, others, exacts, depths, backs⟩ := toJsonItems?_storable rest storable.2
      refine ⟨value :: values, ?_, ⟨precise, exacts⟩, congrArg₂ max depth depths, congrArg₂ List.cons back backs⟩
      rw [toJsonItems?, written, others]
      rfl

/-- Entries that can be stored come back from their members. -/
theorem toJsonMembers?_storable (entries : List (String × Value)) (storable : StorableEntries entries) :
    ∃ members, toJsonMembers? entries = some members ∧ Json.Value.ExactMembers members ∧
      members.map Prod.fst = entries.map Prod.fst ∧ Json.Value.memberDepth members = entryDepth entries ∧
      ofJsonMembers members = entries := by
  match entries with
  | [] => exact ⟨[], rfl, trivial, rfl, rfl, rfl⟩
  | (name, item) :: rest =>
      obtain ⟨value, written, precise, depth, back⟩ := toJson?_storable item storable.1
      obtain ⟨members, others, exacts, names, depths, backs⟩ := toJsonMembers?_storable rest storable.2
      refine ⟨(name, value) :: members, ?_, ⟨precise, exacts⟩, congrArg (name :: ·) names,
        congrArg₂ max depth depths, ?_⟩
      · rw [toJsonMembers?, written, others]
        rfl
      · rw [ofJsonMembers, back, backs]

end

end ScriptHost.Script.Value
