/-
This file reads the names of the scripts that an entity declares.
-/
import ScriptHost.Json.Record
import ScriptHost.Text.Blank

namespace ScriptHost.Bind

/-- The declaration under this key is a record. -/
def recordKey : String := "ScriptComponent"

/-- The declaration under this key is a plain list. -/
def listKey : String := "scripts"

def recordNames? (text : String) : Option (List String) := do
  let form ← Json.Form.read text.toList
  match ← form.record? ["scripts"] with
  | [scripts] => scripts.orElse [] Json.Form.strings?
  | _ => none

def listNames? (text : String) : Option (List String) := do
  let form ← Json.Form.read text.toList
  form.strings?

/-- The first of two equal names stays. -/
def distinct : List String → List String → List String
  | _, [] => []
  | seen, name :: rest =>
      if seen.contains name then distinct seen rest else name :: distinct (name :: seen) rest

theorem distinct_nodup (seen names : List String) :
    (distinct seen names).Nodup ∧ ∀ name ∈ distinct seen names, name ∉ seen := by
  induction names generalizing seen with
  | nil => simp [distinct]
  | cons name rest ih =>
      unfold distinct
      by_cases known : seen.contains name
      · rw [if_pos known]
        exact ih seen
      · rw [if_neg known]
        obtain ⟨single, apart⟩ := ih (name :: seen)
        have first : name ∉ seen := by simpa using known
        constructor
        · refine List.nodup_cons.mpr ⟨fun member => ?_, single⟩
          exact apart name member List.mem_cons_self
        · intro other member
          rcases List.mem_cons.mp member with rfl | later
          · exact first
          · exact fun old => apart other later (List.mem_cons_of_mem _ old)

/-- White space around names is dropped, and so are blank names and repeats. -/
def tidy (names : List String) : List String :=
  distinct [] ((names.map Text.trim).filter (· ≠ ""))

theorem tidy_nodup (names : List String) : (tidy names).Nodup :=
  (distinct_nodup [] _).1

end ScriptHost.Bind
