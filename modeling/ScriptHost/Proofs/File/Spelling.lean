/-
This file tells the components of a path from the names that it was put together from.
-/
import ScriptHost.File.Pathname

namespace ScriptHost.File

/-- A directory lists entries by such names. -/
def IsName (name : String) : Prop :=
  name ≠ "" ∧ name ≠ "." ∧ name ≠ ".." ∧ '/' ∉ name.toList

instance : DecidablePred IsName :=
  fun _ => inferInstanceAs (Decidable (_ ∧ _))

/-- Every text has a first piece. -/
theorem cut_some (text : List Char) : ∃ piece pieces, cut text = piece :: pieces := by
  cases text with
  | nil => exact ⟨_, _, rfl⟩
  | cons value rest =>
      rw [cut]
      split
      · exact ⟨_, _, rfl⟩
      · split <;> exact ⟨_, _, rfl⟩

/-- A slash separates the pieces of its two sides. -/
theorem cut_append (left right : List Char) : cut (left ++ '/' :: right) = cut left ++ cut right := by
  induction left with
  | nil => simp [cut]
  | cons value rest ih =>
      by_cases slash : value = '/'
      · simp [cut, slash, ih]
      · obtain ⟨piece, pieces, same⟩ := cut_some rest
        rw [List.cons_append, cut, if_neg slash, cut, if_neg slash, ih, same]
        rfl

/-- A text without slashes is its only piece. -/
theorem cut_whole {text : List Char} (whole : '/' ∉ text) : cut text = [text] := by
  induction text with
  | nil => rfl
  | cons value rest ih =>
      rw [List.mem_cons, not_or] at whole
      rw [cut, if_neg (Ne.symm whole.1), ih whole.2]

/-- What is cut at the slashes holds none. -/
theorem cut_pieces (text : List Char) : ∀ piece ∈ cut text, '/' ∉ piece := by
  induction text with
  | nil => simp [cut]
  | cons value rest ih =>
      by_cases slash : value = '/'
      · rw [cut, if_pos slash]
        exact List.forall_mem_cons.mpr ⟨by simp, ih⟩
      · obtain ⟨piece, pieces, same⟩ := cut_some rest
        rw [same] at ih
        obtain ⟨first, later⟩ := List.forall_mem_cons.mp ih
        rw [cut, if_neg slash, same]
        exact List.forall_mem_cons.mpr ⟨by simp [Ne.symm slash, first], later⟩

/-- No segment holds a slash. -/
theorem segments_pieces {text piece : String} (member : piece ∈ segments text) : '/' ∉ piece.toList := by
  obtain ⟨chars, among, rfl⟩ := List.mem_map.mp member
  rw [String.toList_ofList]
  exact cut_pieces _ chars among

/-- A slash separates the segments of its two sides. -/
theorem segments_append (left right : String) :
    segments (left ++ "/" ++ right) = segments left ++ segments right := by
  have spelled : (left ++ "/" ++ right).toList = left.toList ++ '/' :: right.toList := by
    simp [String.toList_append]
  rw [segments, spelled, cut_append, List.map_append, segments, segments]

/-- The empty text has one empty segment. -/
theorem segments_empty : segments "" = [""] := by decide

/-- A slash at the end leaves an empty segment behind it. -/
theorem segments_slashed (front : String) : segments (front ++ "/") = segments front ++ [""] := by
  have := segments_append front ""
  rwa [String.append_empty, segments_empty] at this

/-- A text without slashes is its only segment. -/
theorem segments_whole {name : String} (whole : '/' ∉ name.toList) : segments name = [name] := by
  rw [segments, cut_whole whole, List.map_singleton, String.ofList_toList]

/-- A name is a normal component. -/
theorem component_name {name : String} (isName : IsName name) : component? name = some (.normal name) := by
  obtain ⟨filled, current, parent, -⟩ := isName
  simp [component?, filled, current, parent]

/-- The text stops before a slash, so that another name can follow. -/
theorem ends_slash {text : String} (ends : text.toList.getLast? = some '/') :
    ∃ front : String, text = front ++ "/" := by
  obtain ⟨front, same⟩ := List.getLast?_eq_some_iff.mp ends
  refine ⟨String.ofList front, ?_⟩
  rw [← String.toList_inj, same]
  simp [String.toList_append]

namespace Pathname

/-- Whether a path is absolute is decided at its start. -/
theorem isAbsolute_append {text : String} (filled : text ≠ "") (more : String) :
    isAbsolute ⟨text ++ more⟩ = isAbsolute ⟨text⟩ := by
  have some' : text.toList ≠ [] := by simpa using filled
  obtain ⟨first, rest, same⟩ := List.exists_cons_of_ne_nil some'
  simp [isAbsolute, String.toList_append, same]

/-- More segments do not change the first one. -/
theorem head_segments (text more : String) :
    (segments (text ++ "/" ++ more)).head? = (segments text).head? := by
  obtain ⟨piece, pieces, same⟩ := cut_some text.toList
  rw [segments_append, segments, same]
  rfl

/-- A name behind a slash is one more component. -/
theorem components_under (text : String) (filled : text ≠ "") {name : String} (isName : IsName name) :
    components ⟨text ++ "/" ++ name⟩ = components ⟨text⟩ ++ [.normal name] := by
  have inner : (segments (text ++ "/" ++ name)).filterMap component? =
      (segments text).filterMap component? ++ [.normal name] := by
    rw [segments_append, segments_whole isName.2.2.2, List.filterMap_append]
    simp [component_name isName]
  unfold components
  rw [String.append_assoc, isAbsolute_append filled, ← String.append_assoc]
  dsimp only
  rw [inner, head_segments]
  split
  · rfl
  · split <;> rfl

/-- So is a name behind a path that ends in a slash. -/
theorem components_slashed (front : String) {name : String} (isName : IsName name) :
    components ⟨front ++ "/" ++ name⟩ = components ⟨front ++ "/"⟩ ++ [.normal name] := by
  have inner : (segments (front ++ "/" ++ name)).filterMap component? =
      (segments (front ++ "/")).filterMap component? ++ [.normal name] := by
    rw [segments_append, segments_whole isName.2.2.2, segments_slashed, List.filterMap_append,
      List.filterMap_append, List.filterMap_cons_some (component_name isName)]
    simp [component?]
  have heads : (segments (front ++ "/" ++ name)).head? = (segments (front ++ "/")).head? := by
    have empty := head_segments front ""
    rw [String.append_empty] at empty
    rw [head_segments, empty]
  unfold components
  rw [isAbsolute_append (by simp)]
  dsimp only
  rw [inner, heads]
  split
  · rfl
  · split <;> rfl

/-- A path that begins with a name is relative. -/
theorem relative_name {name : String} (isName : IsName name) (more : String) :
    isAbsolute ⟨name ++ more⟩ = false := by
  rw [isAbsolute_append isName.1]
  unfold isAbsolute
  cases spelled : name.toList with
  | nil => rfl
  | cons first rest =>
      have other : first ≠ '/' := by
        rintro rfl
        exact isName.2.2.2 (by simp [spelled])
      simpa using other

/-- A name alone is a relative path. -/
theorem relative_alone {name : String} (isName : IsName name) : isAbsolute ⟨name⟩ = false := by
  have relative := relative_name isName ""
  rwa [String.append_empty] at relative

/-- A name that is joined to a path is one more component. -/
theorem components_joinName (root : Pathname) {name : String} (isName : IsName name) :
    (root.joinName name).components = root.components ++ [.normal name] := by
  have relative := relative_alone isName
  unfold joinName join
  rw [relative, if_neg (by simp)]
  by_cases empty : root.text = ""
  · obtain ⟨text⟩ := root
    subst empty
    have alone : (segments name).head? ≠ some "." := by
      rw [segments_whole isName.2.2.2]
      simpa using isName.2.1
    have nothing : components ⟨""⟩ = [] := by decide
    rw [if_pos (Or.inl rfl), nothing]
    unfold components
    dsimp only
    rw [String.empty_append, relative, if_neg (by simp), if_neg alone, segments_whole isName.2.2.2]
    simp [component_name isName]
  · by_cases slashed : root.text.toList.getLast? = some '/'
    · obtain ⟨text⟩ := root
      obtain ⟨front, rfl⟩ := ends_slash slashed
      rw [if_pos (Or.inr slashed)]
      exact components_slashed front isName
    · rw [if_neg (by simp [empty, slashed])]
      exact components_under root.text empty isName

/-- Names that are joined are components in the same order. -/
theorem components_names (root : Pathname) {names : List String} (proper : ∀ name ∈ names, IsName name) :
    (names.foldl joinName root).components = root.components ++ names.map .normal := by
  induction names generalizing root with
  | nil => simp
  | cons name rest ih =>
      obtain ⟨first, later⟩ := List.forall_mem_cons.mp proper
      rw [List.foldl_cons, ih _ later, components_joinName root first, List.map_cons,
        List.append_assoc, List.singleton_append]

end Pathname

/-- The first of several names stands in front of a slash. -/
theorem slash_cons (name next : String) (rest : List String) :
    slash (name :: next :: rest) = name ++ "/" ++ slash (next :: rest) := by
  rw [← String.toList_inj]
  simp [slash, String.toList_intercalate, String.toList_append, List.intercalate]

/-- Pieces without slashes can be read back from the text that they make up. -/
theorem segments_slash {pieces : List String} (whole : ∀ piece ∈ pieces, '/' ∉ piece.toList)
    (some' : pieces ≠ []) : segments (slash pieces) = pieces := by
  induction pieces with
  | nil => exact absurd rfl some'
  | cons piece rest ih =>
      obtain ⟨first, later⟩ := List.forall_mem_cons.mp whole
      cases rest with
      | nil => exact segments_whole first
      | cons next rest =>
          rw [slash_cons, segments_append, segments_whole first, ih later (by simp)]
          rfl

/-- The path of a location starts at the root and goes through its names. -/
theorem Pathname.components_ofLocation {location : List String}
    (proper : ∀ name ∈ location, IsName name) :
    (ofLocation location).components = .root :: location.map .normal := by
  have absolute : (ofLocation location).isAbsolute = true := by
    simp [ofLocation, isAbsolute, String.toList_append]
  have names : (segments (ofLocation location).text).filterMap component? =
      location.map Component.normal := by
    have cut' : segments ("/" ++ slash location) = "" :: segments (slash location) := by
      have := segments_append "" (slash location)
      rwa [String.empty_append, segments_empty] at this
    unfold ofLocation
    rw [cut', List.filterMap_cons_none (by simp [component?])]
    cases location with
    | nil => decide
    | cons name rest =>
        rw [segments_slash (fun name member => (proper name member).2.2.2) (by simp)]
        clear cut' absolute
        generalize name :: rest = names at proper
        induction names with
        | nil => rfl
        | cons name rest ih =>
            obtain ⟨first, later⟩ := List.forall_mem_cons.mp proper
            rw [List.filterMap_cons_some (component_name first), List.map_cons, ih later]
  unfold components
  rw [absolute, names]
  rfl

end ScriptHost.File
