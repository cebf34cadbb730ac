/-
This file says which scripts a living entity declares, and that they have names in good order.
-/
import ScriptHost.Proofs.Binding.Asking
import ScriptHost.Proofs.Text.Trimming

namespace ScriptHost

namespace Bind

/-- No name is blank or has white space around it, and none comes twice. -/
structure Tidied (names : List String) : Prop where
  filled : ∀ name ∈ names, name ≠ ""
  trimmed : ∀ name ∈ names, Text.Trimmed name.toList
  single : names.Nodup

/-- Repeated names are dropped as by the standard function. -/
theorem distinct_eq (seen names : List String) :
    distinct seen names = (names.filter fun name => !seen.contains name).eraseDups := by
  induction names generalizing seen with
  | nil => rfl
  | cons name rest ih =>
      rw [distinct]
      cases known : seen.contains name with
      | true =>
          rw [if_pos rfl, ih, List.filter_cons, known]
          rfl
      | false =>
          rw [if_neg Bool.false_ne_true, ih, List.filter_cons, known, Bool.not_false, if_pos rfl,
            List.eraseDups_cons, List.filter_filter]
          simp only [List.contains_cons, Bool.not_or]

/-- Distinct names that have not been seen all stay. -/
theorem distinct_self {seen names : List String} (single : names.Nodup) (apart : ∀ name ∈ names, name ∉ seen) :
    distinct seen names = names := by
  induction names generalizing seen with
  | nil => rfl
  | cons name rest ih =>
      obtain ⟨first, single⟩ := List.nodup_cons.mp single
      have new : ¬ seen.contains name = true := by
        rw [List.contains_iff_mem]
        exact apart name List.mem_cons_self
      rw [distinct, if_neg new, ih single]
      intro other among known
      rcases List.mem_cons.mp known with rfl | known
      · exact first among
      · exact apart other (List.mem_cons_of_mem _ among) known

/-- Names are trimmed, then the blank ones go, and then every name that came before. -/
def normal (names : List String) : List String :=
  ((names.map Text.trim).filter (· ≠ "")).eraseDups

/-- Tidying names and bringing them into their normal form are the same. -/
theorem tidy_eq (names : List String) : tidy names = normal names := by
  have all : (fun name => !([] : List String).contains name) = fun _ => true := rfl
  rw [tidy, distinct_eq, all, List.filter_true, normal]

/-- The tidy names are exactly the trimmed ones that are not empty. -/
theorem mem_tidy {names : List String} {name : String} :
    name ∈ tidy names ↔ name ≠ "" ∧ ∃ given ∈ names, Text.trim given = name := by
  rw [tidy_eq, normal, List.mem_eraseDups, List.mem_filter, List.mem_map, decide_eq_true_iff]
  exact and_comm

/-- Names that were tidied have no blanks around them, are not empty, and differ. -/
theorem tidy_tidied (names : List String) : Tidied (tidy names) where
  filled name among := (mem_tidy.mp among).1
  trimmed name among := by
    obtain ⟨-, given, -, rfl⟩ := mem_tidy.mp among
    exact Text.trim_trimmed given
  single := tidy_nodup names

/-- Tidied names are in their normal form already. -/
theorem Tidied.normal {names : List String} (tidied : Tidied names) : normal names = names := by
  have trimmed : names.map Text.trim = names :=
    (List.map_congr_left fun name among => (tidied.trimmed name among).trim).trans (List.map_id names)
  have filled : names.filter (· ≠ "") = names :=
    List.filter_eq_self.mpr fun name among => decide_eq_true (tidied.filled name among)
  rw [← tidy_eq, tidy, trimmed, filled, distinct_self tidied.single fun _ _ => List.not_mem_nil]

end Bind

namespace Session.Binding

variable {engine : Engine} {entity : Entity} {texts : Texts}

/-- A key that fails is read as if nothing stood there. -/
def legible (engine : Engine) (texts : Texts) (key : String) : Option String :=
  if engine.failing.contains key then none else findText key texts.data

/-- A living entity shows the text of each key that the engine reads. -/
theorem text?_alive (calm : engine.panicKey = none) (alive : engine.store.texts? entity = some texts) (key : String) :
    text? engine entity key = .ok (legible engine texts key) := by
  have quiet : engine.panicsOn key = none := by
    rw [Engine.panicsOn, calm]
    rfl
  rw [text?, quiet]
  simp only [Engine.scriptData, Engine.checkKey, Engine.resolve, alive, legible]
  split <;> rfl

/-- A living entity declares the names of its record, or else the names of its list. -/
theorem declaration_alive (calm : engine.panicKey = none) (alive : engine.store.texts? entity = some texts) :
    declaration engine entity =
      .ok (Bind.tidy ((((legible engine texts Bind.recordKey).bind Bind.recordNames?).or
        ((legible engine texts Bind.listKey).bind Bind.listNames?)).getD [])) := by
  have read (key : String) (parse : String → Option (List String)) :
      names? engine entity key parse = .ok ((legible engine texts key).bind parse) := by
    rw [names?, text?_alive calm alive]
    rfl
  rw [declaration, read, read]
  cases (legible engine texts Bind.recordKey).bind Bind.recordNames? with
  | some names => rfl
  | none =>
      cases (legible engine texts Bind.listKey).bind Bind.listNames? with
      | some names => rfl
      | none => rfl

end Session.Binding

end ScriptHost
