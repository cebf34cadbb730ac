/-
This file reads back the values that JSON texts are written from.
-/
import Mathlib.Data.List.Induction
import ScriptHost.Proofs.Json.Numerals
import ScriptHost.Proofs.Json.Strings

namespace ScriptHost.Json

open Form (isDigit isSpace skipSpace readValue readItems readMembers readNumeral)

namespace Value

mutual

/-- The value holds no float, and the members of its objects stand in ascending order of their names. -/
def Exact : Value → Prop
  | .number value => value.Whole
  | .array items => ExactItems items
  | .object members => (members.map Prod.fst).Pairwise (· < ·) ∧ ExactMembers members
  | .null | .boolean _ | .string _ => True

def ExactItems : List Value → Prop
  | [] => True
  | item :: rest => item.Exact ∧ ExactItems rest

def ExactMembers : List (String × Value) → Prop
  | [] => True
  | (_, value) :: rest => value.Exact ∧ ExactMembers rest

end

mutual

/-- This is the written form of the compact text. -/
def form : Value → Form
  | .null => .null
  | .boolean value => .boolean value
  | .number value => .number value.numeral
  | .string text => .string (some text)
  | .array items => .array (itemForms items)
  | .object members => .object (memberForms members)

def itemForms : List Value → List Form
  | [] => []
  | item :: rest => item.form :: itemForms rest

def memberForms : List (String × Value) → List (Option String × Form)
  | [] => []
  | (name, value) :: rest => (some name, value.form) :: memberForms rest

end

mutual

/-- This counts how deep arrays and objects nest. -/
def depth : Value → Nat
  | .array items => itemDepth items + 1
  | .object members => memberDepth members + 1
  | .null | .boolean _ | .number _ | .string _ => 0

def itemDepth : List Value → Nat
  | [] => 0
  | item :: rest => max item.depth (itemDepth rest)

def memberDepth : List (String × Value) → Nat
  | [] => 0
  | (_, value) :: rest => max value.depth (memberDepth rest)

end

section Leads

variable {first mark : Char} {more rest : List Char} {fuel : Nat}

/-- What is solid is not skipped. -/
theorem skipSpace_cons (solid : isSpace first = false) : skipSpace (first :: more) = first :: more := by
  rw [skipSpace, solid]
  rfl

/-- A number starts with no mark of another value. -/
theorem number_ne (lead : first = '-' ∨ isDigit first = true) (noSign : mark ≠ '-') (noDigit : isDigit mark = false) :
    first ≠ mark := by
  rintro rfl
  exact lead.elim noSign fun digit => Bool.false_ne_true (noDigit.symm.trans digit)

/-- A number starts with no space. -/
theorem number_solid (lead : first = '-' ∨ isDigit first = true) : isSpace first = false := by
  simp only [isSpace, Bool.or_eq_false_iff, beq_eq_false_iff_ne]
  exact ⟨⟨⟨number_ne lead (by decide) rfl, number_ne lead (by decide) rfl⟩, number_ne lead (by decide) rfl⟩,
    number_ne lead (by decide) rfl⟩

/-- No other kind of value begins like a number. -/
theorem readValue_number (lead : first = '-' ∨ isDigit first = true) :
    readValue (fuel + 1) (first :: more) =
      (readNumeral (first :: more)).map fun (numeral, rest) => (.number numeral, rest) := by
  rw [readValue, skipSpace_cons (number_solid lead)]
  split
  · next same => exact absurd (List.cons.inj same).1 (number_ne lead (by decide) rfl)
  · next same => exact absurd (List.cons.inj same).1 (number_ne lead (by decide) rfl)
  · next same => exact absurd (List.cons.inj same).1 (number_ne lead (by decide) rfl)
  · next same => exact absurd (List.cons.inj same).1 (number_ne lead (by decide) rfl)
  · next same => exact absurd (List.cons.inj same).1 (number_ne lead (by decide) rfl)
  · next same => exact absurd (List.cons.inj same).1 (number_ne lead (by decide) rfl)
  · rfl

/-- A quote begins a string. -/
theorem readValue_quote :
    readValue (fuel + 1) ('"' :: more) = (Form.readString more).map fun (text, rest) => (.string text, rest) :=
  rfl

/-- A bracket begins an array. -/
theorem readValue_bracket (solid : isSpace first = false) (noEnd : first ≠ ']') :
    readValue (fuel + 1) ('[' :: first :: more) =
      (readItems fuel (first :: more)).map fun (items, rest) => (.array items, rest) := by
  have bracket : skipSpace ('[' :: first :: more) = '[' :: first :: more := rfl
  rw [readValue, bracket]
  simp only [skipSpace_cons solid]
  split
  · next same => exact absurd (List.cons.inj same).1 noEnd
  · rfl

/-- A text neither starts with a space nor looks like the end of an array. -/
theorem chars_lead {value : Value} (precise : value.Exact) :
    ∃ first more, value.chars = first :: more ∧ isSpace first = false ∧ first ≠ ']' := by
  cases value with
  | null => exact ⟨'n', _, rfl, rfl, by decide⟩
  | boolean value => cases value <;> exact ⟨_, _, rfl, rfl, by decide⟩
  | number value =>
      obtain ⟨first, more, written, lead⟩ := Number.write_lead precise
      exact ⟨first, more, written, number_solid lead, number_ne lead (by decide) rfl⟩
  | string text => exact ⟨'"', _, rfl, rfl, by decide⟩
  | array items => exact ⟨'[', _, rfl, rfl, by decide⟩
  | object members => exact ⟨'\x7b', _, rfl, rfl, by decide⟩

/-- Items start solid and not with the end of the array. -/
theorem itemChars_lead {items : List Value} (precise : ExactItems items) (filled : items ≠ []) :
    ∃ first more, itemChars items = first :: more ∧ isSpace first = false ∧ first ≠ ']' := by
  match items with
  | [] => exact absurd rfl filled
  | [item] => exact chars_lead precise.1
  | item :: next :: others =>
      obtain ⟨first, more, written, solid, noEnd⟩ := chars_lead precise.1
      refine ⟨first, more ++ ',' :: itemChars (next :: others), ?_, solid, noEnd⟩
      rw [itemChars, written, List.cons_append]

/-- A brace begins an object. -/
theorem readValue_brace :
    readValue (fuel + 1) ('\x7b' :: '"' :: more) =
      (readMembers fuel ('"' :: more)).map fun (members, rest) => (.object members, rest) :=
  rfl

/-- Members start with a quote. -/
theorem memberChars_lead {members : List (String × Value)} (filled : members ≠ []) :
    ∃ more, memberChars members = '"' :: more := by
  match members with
  | [] => exact absurd rfl filled
  | [_] => exact ⟨_, rfl⟩
  | _ :: _ :: _ => exact ⟨_, rfl⟩

/-- The name of a member and the colon have been read. -/
def readMember (fuel : Nat) (name : Option String) (text : List Char) :
    Option (List (Option String × Form) × List Char) :=
  match readValue fuel text with
  | none => none
  | some (value, rest) =>
      match skipSpace rest with
      | ',' :: rest => (readMembers fuel rest).map fun (members, rest) => ((name, value) :: members, rest)
      | '\x7d' :: rest => some ([(name, value)], rest)
      | _ => none

/-- A member is read by its name first. -/
theorem readMembers_name (name : String) (more : List Char) :
    readMembers (fuel + 1) (quote name ++ ':' :: more) = readMember fuel (some name) more := by
  have solid (rest : List Char) : skipSpace ('"' :: rest) = '"' :: rest := rfl
  have colon : skipSpace (':' :: more) = ':' :: more := rfl
  rw [quote_append, readMembers, solid]
  simp only [readString_quoted, colon]
  rfl

end Leads

section Reading

mutual

/-- The characters of a value are read as its form if there are steps enough. -/
theorem readValue_chars (value : Value) (precise : value.Exact) {rest : List Char} (ended : Ended rest) (fuel : Nat)
    (enough : 2 * value.chars.length ≤ fuel) : readValue fuel (value.chars ++ rest) = some (value.form, rest) := by
  obtain ⟨first, more, written, -⟩ := chars_lead precise
  have positive : fuel ≠ 0 := by
    rw [written, List.length_cons] at enough
    omega
  obtain ⟨fuel, rfl⟩ := Nat.exists_eq_succ_of_ne_zero positive
  match value with
  | .null => rfl
  | .boolean true => rfl
  | .boolean false => rfl
  | .number value =>
      obtain ⟨first, more, written, lead⟩ := Number.write_lead precise
      have read := Number.readNumeral_write precise ended
      rw [written, List.cons_append] at read
      rw [chars, written, List.cons_append, readValue_number lead, read]
      rfl
  | .string text =>
      rw [chars, quote_append, readValue_quote, readString_quoted]
      rfl
  | .array items =>
      rw [chars, List.length_cons, List.length_append, List.length_singleton] at enough
      rw [chars, List.cons_append, List.append_assoc, List.singleton_append]
      by_cases empty : items = []
      · subst empty
        rfl
      · obtain ⟨first, more, written, solid, noEnd⟩ := itemChars_lead precise empty
        have read := readItems_chars items precise rest fuel (by omega) empty
        rw [written, List.cons_append] at read ⊢
        rw [readValue_bracket solid noEnd, read]
        rfl
  | .object members =>
      rw [chars, List.length_cons, List.length_append, List.length_singleton] at enough
      rw [chars, List.cons_append, List.append_assoc, List.singleton_append]
      by_cases empty : members = []
      · subst empty
        rfl
      · obtain ⟨more, written⟩ := memberChars_lead empty
        have read := readMembers_chars members precise.2 rest fuel (by omega) empty
        rw [written, List.cons_append] at read ⊢
        rw [readValue_brace, read]
        rfl

/-- The characters of items are read as their forms if there are steps enough. -/
theorem readItems_chars (items : List Value) (precise : ExactItems items) (rest : List Char) (fuel : Nat)
    (enough : 2 * (itemChars items).length + 1 ≤ fuel) (filled : items ≠ []) :
    readItems fuel (itemChars items ++ ']' :: rest) = some (itemForms items, rest) := by
  obtain ⟨fuel, rfl⟩ : ∃ less, fuel = less + 1 := Nat.exists_eq_succ_of_ne_zero (by omega)
  match items with
  | [] => exact absurd rfl filled
  | [item] =>
      rw [itemChars] at enough ⊢
      rw [readItems, readValue_chars item precise.1 (.bracket rest) fuel (by omega)]
      rfl
  | item :: next :: others =>
      rw [itemChars, List.length_append, List.length_cons] at enough
      have later := readItems_chars (next :: others) precise.2 rest fuel (by omega) (List.cons_ne_nil _ _)
      rw [itemChars, List.append_assoc, List.cons_append, readItems,
        readValue_chars item precise.1 (.comma _) fuel (by omega)]
      change (readItems fuel (itemChars (next :: others) ++ ']' :: rest)).map _ = _
      rw [later]
      rfl

/-- The characters of members are read as their forms if there are steps enough. -/
theorem readMembers_chars (members : List (String × Value)) (precise : ExactMembers members) (rest : List Char)
    (fuel : Nat) (enough : 2 * (memberChars members).length + 1 ≤ fuel) (filled : members ≠ []) :
    readMembers fuel (memberChars members ++ '\x7d' :: rest) = some (memberForms members, rest) := by
  obtain ⟨fuel, rfl⟩ : ∃ less, fuel = less + 1 := Nat.exists_eq_succ_of_ne_zero (by omega)
  match members with
  | [] => exact absurd rfl filled
  | [(name, value)] =>
      rw [memberChars, List.length_append, List.length_cons] at enough
      rw [memberChars, List.append_assoc, List.cons_append, readMembers_name, readMember,
        readValue_chars value precise.1 (.brace rest) fuel (by omega)]
      rfl
  | (name, value) :: next :: others =>
      rw [memberChars, List.length_append, List.length_append, List.length_cons, List.length_cons] at enough
      have later := readMembers_chars (next :: others) precise.2 rest fuel (by omega) (List.cons_ne_nil _ _)
      rw [memberChars, List.append_assoc, List.append_assoc, List.cons_append, List.cons_append, readMembers_name,
        readMember, readValue_chars value precise.1 (.comma _) fuel (by omega)]
      change (readMembers fuel (memberChars (next :: others) ++ '\x7d' :: rest)).map _ = _
      rw [later]
      rfl

end

/-- A value that was written is read as its form. -/
theorem read_write {value : Value} (precise : value.Exact) : Form.read value.write.toList = some value.form := by
  have read := readValue_chars value precise .nothing (2 * value.chars.length + 2) (by omega)
  rw [List.append_nil] at read
  rw [write, String.toList_ofList, Form.read, read]
  rfl

end Reading

section Meaning

/-- A member whose name is after all others comes last. -/
theorem put_last {α : Type} {name : String} {members : List (String × α)} (before : ∀ member ∈ members, member.1 < name)
    (value : α) : put name value members = members ++ [(name, value)] := by
  induction members with
  | nil => rfl
  | cons member rest ih =>
      have less := before member List.mem_cons_self
      rw [put, if_neg (String.lt_asymm less), if_neg (String.ne_of_lt less).symm,
        ih fun other among => before other (List.mem_cons_of_mem _ among)]
      rfl

/-- Members in ascending order stay where they are. -/
theorem sortMembers_ascending {α : Type} {members : List (String × α)}
    (ascending : (members.map Prod.fst).Pairwise (· < ·)) : sortMembers members = members := by
  unfold sortMembers
  induction members using List.reverseRecOn with
  | nil => rfl
  | append_singleton front member ih =>
      rw [List.map_append, List.pairwise_append] at ascending
      obtain ⟨ordered, -, before⟩ := ascending
      rw [List.foldl_append, ih ordered, List.foldl_cons, List.foldl_nil]
      refine put_last (fun other among => ?_) member.2
      exact before other.1 (List.mem_map_of_mem among) member.1 List.mem_cons_self

/-- One more level needs one more room. -/
theorem deeper_within {α β : Type} (deep room : Nat) (value : α) (wrap : α → β) :
    (if room = 0 then none else (if deep ≤ room - 1 then some value else none).map wrap) =
      if deep + 1 ≤ room then some (wrap value) else none := by
  by_cases fits : deep + 1 ≤ room
  · rw [if_neg (by omega), if_pos (by omega), if_pos fits]
    rfl
  · rw [if_neg fits]
    split
    · rfl
    · rw [if_neg (by omega)]
      rfl

/-- Two parts fit into a room if the larger one does. -/
theorem both_within {α β γ : Type} (first second room : Nat) (head : α) (tail : β) (join : α → β → γ) :
    ((if first ≤ room then some head else none).bind fun head =>
        (if second ≤ room then some tail else none).bind fun tail => some (join head tail)) =
      if max first second ≤ room then some (join head tail) else none := by
  by_cases here : first ≤ room
  · by_cases there : second ≤ room
    · rw [if_pos here, if_pos there, if_pos (Nat.max_le.mpr ⟨here, there⟩)]
      rfl
    · rw [if_pos here, if_neg there, if_neg fun both => there (Nat.max_le.mp both).2]
      rfl
  · rw [if_neg here, if_neg fun both => here (Nat.max_le.mp both).1]
    rfl

mutual

/-- A form has its value if there is room for its depth. -/
theorem value?_form (value : Value) (precise : value.Exact) (room : Nat) :
    value.form.value? room = if value.depth ≤ room then some value else none := by
  match value with
  | .null => rfl
  | .boolean value => rfl
  | .number value =>
      rw [form, Form.value?, Number.number?_numeral precise]
      rfl
  | .string text => rfl
  | .array items =>
      rw [form, Form.value?, depth, values?_itemForms items precise]
      exact deeper_within _ room items Value.array
  | .object members =>
      rw [form, Form.value?, depth, memberValues?_memberForms members precise.2]
      have sorted := deeper_within (memberDepth members) room members fun members => Value.object (sortMembers members)
      rw [sortMembers_ascending precise.1] at sorted
      exact sorted

/-- So have the forms of items. -/
theorem values?_itemForms (items : List Value) (precise : ExactItems items) (room : Nat) :
    Form.values? room (itemForms items) = if itemDepth items ≤ room then some items else none := by
  match items with
  | [] => rfl
  | item :: rest =>
      rw [itemForms, Form.values?, value?_form item precise.1, values?_itemForms rest precise.2, itemDepth]
      exact both_within _ _ room item rest List.cons

/-- So have the forms of members. -/
theorem memberValues?_memberForms (members : List (String × Value)) (precise : ExactMembers members) (room : Nat) :
    Form.memberValues? room (memberForms members) = if memberDepth members ≤ room then some members else none := by
  match members with
  | [] => rfl
  | (name, value) :: rest =>
      rw [memberForms, Form.memberValues?, value?_form value precise.1, memberValues?_memberForms rest precise.2,
        memberDepth]
      exact both_within _ _ room value rest fun value rest => (name, value) :: rest

end

/-- What was written is read again, unless it nests too deep. -/
theorem read?_write {value : Value} (precise : value.Exact) :
    read? value.write = if value.depth ≤ depthLimit then some value else none := by
  rw [read?, read_write precise, Option.bind_eq_bind, Option.bind_some, value?_form value precise]

end Meaning

end Value

end ScriptHost.Json
