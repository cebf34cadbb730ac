/-
This file says what texts look like once the white space at their ends has been dropped.
-/
import Mathlib.Data.List.DropRight
import ScriptHost.Text.Blank

namespace ScriptHost.Text

/-- There is no white space at either end. -/
structure Trimmed (text : List Char) : Prop where
  front : ∀ value ∈ text.head?, isBlank value = false
  back : ∀ value ∈ text.getLast?, isBlank value = false

variable {text : List Char}

/-- Trimming drops the white space at the front and then that at the back. -/
theorem trimChars_eq (text : List Char) : trimChars text = (text.dropWhile isBlank).rdropWhile isBlank :=
  rfl

/-- What has been trimmed is trimmed. -/
theorem trimChars_trimmed (text : List Char) : Trimmed (trimChars text) where
  front value starts := by
    obtain ⟨dropped, whole⟩ := List.rdropWhile_prefix isBlank (l := text.dropWhile isBlank)
    have first := List.head?_dropWhile_not isBlank text
    rw [trimChars_eq, Option.mem_def] at starts
    rw [← whole, List.head?_append, starts] at first
    exact first
  back value ends := by
    rw [trimChars_eq, Option.mem_def] at ends
    have filled : (text.dropWhile isBlank).rdropWhile isBlank ≠ [] := by
      intro empty
      rw [empty] at ends
      cases ends
    have last := List.rdropWhile_last_not isBlank _ filled
    rw [List.getLast?_eq_getLast_of_ne_nil filled, Option.some.injEq] at ends
    rw [ends] at last
    exact Bool.eq_false_iff.mpr last

/-- A trimmed text is not trimmed any further. -/
theorem Trimmed.trimChars (trimmed : Trimmed text) : trimChars text = text := by
  have front : text.dropWhile isBlank = text := by
    cases text with
    | nil => rfl
    | cons first rest => exact List.dropWhile_cons_of_neg (Bool.eq_false_iff.mp (trimmed.front first rfl))
  rw [trimChars_eq, front, List.rdropWhile_eq_self_iff]
  intro filled
  exact Bool.eq_false_iff.mp (trimmed.back _ (List.getLast?_eq_getLast_of_ne_nil filled))

/-- A name that has been trimmed is trimmed. -/
theorem trim_trimmed (name : String) : Trimmed (trim name).toList := by
  rw [trim, String.toList_ofList]
  exact trimChars_trimmed _

/-- A trimmed name stays as it is. -/
theorem Trimmed.trim {name : String} (trimmed : Trimmed name.toList) : trim name = name := by
  rw [Text.trim, trimmed.trimChars, String.ofList_toList]

end ScriptHost.Text
