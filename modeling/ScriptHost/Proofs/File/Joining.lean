/-
This file reads the segments of a path that names were joined to, and of its parent.
-/
import Mathlib.Data.List.Basic
import ScriptHost.Proofs.File.Spelling

namespace ScriptHost.File

/-- A text ends as the last part of it does. -/
theorem ends_append (front : String) {text : String} (filled : text ≠ "") :
    (front ++ text).toList.getLast? = text.toList.getLast? := by
  rw [String.toList_append, List.getLast?_append_of_ne_nil _ (by simpa using filled)]

/-- Such a segment leads nowhere. -/
def Idle (segment : String) : Prop :=
  segment = "" ∨ segment = "."

/-- A name is not idle. -/
theorem IsName.busy {name : String} (isName : IsName name) : ¬ Idle name :=
  not_or.mpr ⟨isName.1, isName.2.1⟩

/-- What is cut off behind names leads nowhere only if nothing is cut off, or if there are no names. -/
theorem idle_behind {front names kept idle : List String} (named : ∀ name ∈ names, IsName name)
    (all : ∀ segment ∈ idle, Idle segment) (divided : front ++ names = kept ++ idle) : idle = [] ∨ names = [] := by
  by_contra apart
  obtain ⟨cut, filled⟩ := not_or.mp apart
  have last : names.getLast filled = idle.getLast cut := by
    rw [← List.getLast_append_of_ne_nil (List.append_ne_nil_of_right_ne_nil front filled) filled,
      ← List.getLast_append_of_ne_nil (List.append_ne_nil_of_right_ne_nil kept cut) cut]
    simp only [divided]
  have busy := (named _ (List.getLast_mem filled)).busy
  rw [last] at busy
  exact busy (all _ (List.getLast_mem cut))

namespace Pathname

variable {path root base : Pathname} {names : List String} {name : String}

/-- Whatever is joined to the path is written behind this text. -/
def lead (path : Pathname) : String :=
  if path.text = "" ∨ path.text.toList.getLast? = some '/' then path.text else path.text ++ "/"

/-- A relative path is joined behind what leads to it. -/
theorem join_relative {other : Pathname} (relative : other.isAbsolute = false) :
    base.join other = ⟨base.lead ++ other.text⟩ := by
  unfold join lead
  rw [relative, if_neg (by simp)]
  split <;> rfl

/-- What leads on from a text is decided at its end. -/
theorem lead_append (front : String) {text : String} (filled : text ≠ "") :
    lead ⟨front ++ text⟩ = front ++ lead ⟨text⟩ := by
  unfold lead
  dsimp only
  rw [ends_append front filled]
  by_cases ends : text.toList.getLast? = some '/'
  · rw [if_pos (Or.inr ends), if_pos (Or.inr ends)]
  · rw [if_neg (by simp [filled, ends]), if_neg (by simp [filled, ends]), String.append_assoc]

/-- A slash leads on from a name. -/
theorem lead_name (isName : IsName name) : lead ⟨name⟩ = name ++ "/" := by
  have ends : name.toList.getLast? ≠ some '/' := fun ends => isName.2.2.2 (List.mem_of_getLast? ends)
  rw [lead, if_neg (by simp [isName.1, ends])]

/-- The segments behind the text begin afresh. -/
theorem lead_segments (filled : path.text ≠ "") : ∃ front idle,
    (∀ text, segments (path.lead ++ text) = front ++ segments text) ∧ front ≠ [] ∧
      segments path.text = front ++ idle ∧ ∀ segment ∈ idle, Idle segment := by
  obtain ⟨text⟩ := path
  have some' (front : String) : segments front ≠ [] := by
    obtain ⟨piece, pieces, same⟩ := cut_some front.toList
    simp [segments, same]
  by_cases slashed : text.toList.getLast? = some '/'
  · obtain ⟨front, rfl⟩ := ends_slash slashed
    refine ⟨segments front, [""], fun more => ?_, some' front, segments_slashed front, by simp [Idle]⟩
    rw [lead, if_pos (Or.inr slashed), segments_append]
  · refine ⟨segments text, [], fun more => ?_, some' text, (List.append_nil _).symm, by simp⟩
    rw [lead, if_neg (by simpa using ⟨filled, slashed⟩), segments_append]

/-- A name is joined behind what leads to it. -/
theorem joinName_eq (isName : IsName name) : root.joinName name = ⟨root.lead ++ name⟩ :=
  join_relative (relative_alone isName)

/-- Names that are joined one after the other stand behind one another. -/
theorem joined_text (named : ∀ name ∈ names, IsName name) (filled : names ≠ []) :
    names.foldl joinName root = ⟨root.lead ++ slash names⟩ := by
  induction names generalizing root with
  | nil => exact absurd rfl filled
  | cons name rest ih =>
      obtain ⟨first, later⟩ := List.forall_mem_cons.mp named
      rw [List.foldl_cons, joinName_eq first]
      cases rest with
      | nil => rfl
      | cons next rest =>
          rw [ih later (by simp), lead_append _ first.1, lead_name first, slash_cons, String.append_assoc]

/-- Names alone make a relative path. -/
theorem joined_relative (named : ∀ name ∈ names, IsName name) (filled : names ≠ []) :
    isAbsolute ⟨slash names⟩ = false := by
  obtain ⟨name, rest, rfl⟩ := List.exists_cons_of_ne_nil filled
  have first := named name List.mem_cons_self
  cases rest with
  | nil => exact relative_alone first
  | cons next rest =>
      rw [slash_cons, String.append_assoc]
      exact relative_name first _

/-- A path stays absolute or relative when names are joined to it. -/
theorem joined_absolute (named : ∀ name ∈ names, IsName name) :
    (names.foldl joinName root).isAbsolute = root.isAbsolute := by
  by_cases filled : names = []
  · rw [filled, List.foldl_nil]
  · rw [joined_text named filled]
    obtain ⟨text⟩ := root
    by_cases empty : text = ""
    · subst empty
      rw [lead, if_pos (Or.inl rfl), String.empty_append, joined_relative named filled]
      rfl
    · unfold lead
      split
      · exact isAbsolute_append empty _
      · rw [String.append_assoc]
        exact isAbsolute_append empty _

/-- It makes no difference whether names are joined before or after the path was made absolute. -/
theorem joined_resolveAgainst (named : ∀ name ∈ names, IsName name) (base : Pathname) :
    (names.foldl joinName root).resolveAgainst base = names.foldl joinName (root.resolveAgainst base) := by
  unfold resolveAgainst
  rw [joined_absolute named]
  by_cases absolute : root.isAbsolute = true
  · rw [if_pos absolute, if_pos absolute]
  · rw [if_neg absolute, if_neg absolute]
    by_cases filled : names = []
    · rw [filled, List.foldl_nil, List.foldl_nil]
    · have relative : (names.foldl joinName root).isAbsolute = false := by
        rw [joined_absolute named]
        simpa using absolute
      rw [join_relative relative, joined_text named filled, joined_text named filled,
        join_relative (by simpa using absolute)]
      by_cases empty : root.text = ""
      · have leads : lead ⟨base.lead⟩ = base.lead := by
          unfold lead
          dsimp only
          split
          · rfl
          · rw [if_pos (Or.inr (by simp [String.toList_append]))]
        have nothing : root.lead = "" := by rw [lead, if_pos (Or.inl empty), empty]
        rw [empty, String.append_empty, leads, nothing, String.empty_append]
      · rw [lead_append _ empty, String.append_assoc]

/-- The last name is that of the file. -/
theorem fileName_joined (root : Pathname) (named : ∀ name ∈ names, IsName name) (filled : names ≠ []) :
    (names.foldl joinName root).fileName = some (names.getLast filled) := by
  rw [fileName, components_names root named, List.getLast?_append_of_ne_nil _ (by simpa using filled),
    List.getLast?_map, List.getLast?_eq_getLast_of_ne_nil filled]
  rfl

/-- Only idle segments are dropped, and never all of them. -/
theorem dropIdle_spec (segments : List String) : ∃ idle, segments = idle ++ dropIdle segments ∧
    (∀ segment ∈ idle, Idle segment) ∧ (segments ≠ [] → dropIdle segments ≠ []) := by
  fun_induction dropIdle segments with
  | case1 segment before rest idle ih =>
      obtain ⟨front, same, all, some'⟩ := ih
      refine ⟨segment :: front, by rw [List.cons_append, ← same], ?_, fun _ => some' (by simp)⟩
      exact List.forall_mem_cons.mpr ⟨idle, all⟩
  | case2 segment before rest busy => exact ⟨[], rfl, by simp, id⟩
  | case3 short longer => exact ⟨[], rfl, by simp, id⟩

/-- An absolute path has an empty segment before its first slash. -/
theorem absolute_segments (absolute : path.isAbsolute = true) :
    ∃ rest, segments path.text = "" :: rest := by
  obtain ⟨text⟩ := path
  obtain ⟨rest, spelled⟩ : ∃ rest, text.toList = '/' :: rest := by
    rw [isAbsolute, beq_iff_eq] at absolute
    exact List.head?_eq_some_iff.mp absolute
  refine ⟨(cut rest).map String.ofList, ?_⟩
  rw [segments, spelled, cut, if_pos rfl]
  rfl

/-- What is put together from segments of an absolute path is absolute and can be read back. -/
theorem ofReversed_segments {short kept : List String} (begins : short.reverse = "" :: kept)
    (whole : ∀ piece ∈ kept, '/' ∉ piece.toList) : (ofReversed true short).isAbsolute = true ∧
      (segments (ofReversed true short).text = short.reverse ∨
        short.reverse = [""] ∧ segments (ofReversed true short).text = ["", ""]) := by
  have count := congrArg List.length begins
  rw [List.length_reverse, List.length_cons] at count
  cases kept with
  | nil =>
      rw [ofReversed, if_pos ⟨rfl, Nat.le_of_eq count⟩, begins]
      exact ⟨by decide, Or.inr ⟨rfl, by decide⟩⟩
  | cons next kept =>
      have longer : ¬ (True ∧ short.length ≤ 1) := by
        rw [List.length_cons] at count
        omega
      rw [ofReversed, if_neg (by simpa using longer), begins]
      refine ⟨?_, Or.inl (segments_slash (List.forall_mem_cons.mpr ⟨by simp, whole⟩) (by simp))⟩
      rw [slash_cons, isAbsolute]
      simp [String.toList_append]

/-- The parent of an absolute path keeps its segments but the last one and some that lead nowhere. -/
theorem parent_segments {front : List String} (absolute : path.isAbsolute = true)
    (spelled : segments path.text = front ++ [name]) (filled : front ≠ []) (busy : ¬ Idle name) :
    ∃ kept idle parent, path.parent = some parent ∧ parent.isAbsolute = true ∧ front = kept ++ idle ∧
      (∀ segment ∈ idle, Idle segment) ∧
      (segments parent.text = kept ∨ kept = [""] ∧ segments parent.text = ["", ""]) := by
  obtain ⟨idle, same, all, some'⟩ := dropIdle_spec front.reverse
  obtain ⟨before, rest, reversed⟩ := List.exists_cons_of_ne_nil (List.reverse_ne_nil_iff.mpr filled)
  have outcome : path.parent = some (ofReversed true (dropIdle front.reverse)) := by
    have kept : dropIdle (name :: before :: rest) = name :: before :: rest := by
      rw [dropIdle]
      exact if_neg busy
    rw [parent, spelled, List.reverse_append, List.reverse_singleton, List.singleton_append, reversed, kept,
      absolute]
  generalize dropIdle front.reverse = short at same some' outcome
  have divided : front = short.reverse ++ idle.reverse := by
    rw [← List.reverse_append, ← same, List.reverse_reverse]
  -- The empty segment before the first slash is kept.
  obtain ⟨kept, begins⟩ : ∃ kept, short.reverse = "" :: kept := by
    obtain ⟨all, opens⟩ := absolute_segments absolute
    obtain ⟨first, kept, held⟩ := List.exists_cons_of_ne_nil
      (List.reverse_ne_nil_iff.mpr (some' (List.reverse_ne_nil_iff.mpr filled)))
    rw [spelled, divided, held] at opens
    exact ⟨kept, by rw [held, (List.cons.inj opens).1]⟩
  have whole : ∀ piece ∈ kept, '/' ∉ piece.toList := by
    intro piece member
    have among : piece ∈ segments path.text := by
      rw [spelled, divided, begins]
      simp [member]
    exact segments_pieces among
  obtain ⟨absolute', read⟩ := ofReversed_segments begins whole
  exact ⟨short.reverse, idle.reverse, _, outcome, absolute', divided, by simpa using all, read⟩

end Pathname

end ScriptHost.File
