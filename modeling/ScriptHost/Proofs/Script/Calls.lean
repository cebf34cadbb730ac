/-
This file collects the names that programs call. A program spares what it does not call, and a cache whose scripts
spare it goes on to do so when they are compiled again.
-/
import ScriptHost.Script.Library

namespace ScriptHost.Script

mutual

/-- These are the names of all calls in an expression, whoever is called by them. -/
def Expression.calls : Expression → List String
  | .text parts => callsOfAll parts
  | .array items => callsOfAll items
  | .map entries => callsOfEntries entries
  | .negate operand => operand.calls
  | .affirm operand => operand.calls
  | .invert operand => operand.calls
  | .binary _ left right => left.calls ++ right.calls
  | .both left right => left.calls ++ right.calls
  | .either left right => left.calls ++ right.calls
  | .call name arguments => name :: callsOfAll arguments
  | .method base name arguments => name :: (base.calls ++ callsOfAll arguments)
  | .field base _ => base.calls
  | .index base place => base.calls ++ place.calls
  | .block body => callsOfBody body
  | .choose condition yes no => condition.calls ++ (callsOfBody yes ++ callsOfBody no)
  | _ => []

def callsOfAll : List Expression → List String
  | [] => []
  | item :: rest => item.calls ++ callsOfAll rest

def callsOfEntries : List (String × Expression) → List String
  | [] => []
  | (_, item) :: rest => item.calls ++ callsOfEntries rest

def Statement.calls : Statement → List String
  | .declare _ _ value => value.calls
  | .assign target _ value => target.calls ++ value.calls
  | .evaluate value => value.calls
  | .loop condition body => condition.calls ++ callsOfBody body
  | .forEach _ source body => source.calls ++ callsOfBody body
  | .deliver value => value.calls
  | .raise value => value.calls
  | _ => []

def callsOfBody : List Statement → List String
  | [] => []
  | statement :: rest => statement.calls ++ callsOfBody rest

end

/-- The values of a map are evaluated like the items of an array. -/
theorem callsOfEntries_eq (entries : List (String × Expression)) :
    callsOfEntries entries = callsOfAll (entries.map Prod.snd) := by
  induction entries with
  | nil => rfl
  | cons entry rest ih => rw [callsOfEntries, List.map_cons, callsOfAll, ih]

def Program.calls (program : Program) : List String :=
  program.functions.flatMap (fun function => callsOfBody function.body) ++ callsOfBody program.body

/-- All of these names are spared. -/
def Spares (spared : String → Prop) (names : List String) : Prop :=
  ∀ name ∈ names, spared name

variable {spared : String → Prop} {left right : List String}

/-- Two lists are spared if both are. -/
theorem spares_append : Spares spared (left ++ right) ↔ Spares spared left ∧ Spares spared right :=
  List.forall_mem_append

/-- A list is spared if its first name and the others are. -/
theorem spares_cons {name : String} : Spares spared (name :: left) ↔ spared name ∧ Spares spared left :=
  List.forall_mem_cons

/-- Where every name is spared, every program will do. -/
theorem Spares.of_all (all : ∀ name, spared name) (names : List String) : Spares spared names :=
  fun name _ => all name

/-- What is spared may be weakened. -/
theorem Spares.mono {other : String → Prop} (spares : Spares spared left) (implies : ∀ name, spared name → other name) :
    Spares other left :=
  fun name member => implies name (spares name member)

variable {program : Program}

/-- What a program spares its body spares. -/
theorem Program.body_spares (spares : Spares spared program.calls) : Spares spared (callsOfBody program.body) :=
  (spares_append.mp spares).2

/-- A function that is found is a part of its program. -/
theorem Program.find?_spares (spares : Spares spared program.calls) {name : String} {count : Nat}
    {function : Function} (found : program.find? name count = some function) :
    Spares spared (callsOfBody function.body) := by
  intro called member
  apply spares called
  have part : function ∈ program.functions := List.mem_of_find?_eq_some found
  exact List.mem_append_left _ (List.mem_flatMap.mpr ⟨function, part, member⟩)

/-- All units of a list call only what is spared. -/
def SparingUnits (spared : String → Prop) (units : List CompiledUnit) : Prop :=
  ∀ unit ∈ units, Spares spared unit.program.calls

/-- Every script below the root that compiles calls only what is spared. -/
def SparingRoot (spared : String → Prop) (tree : File.Tree) (root : File.Pathname) (extension : String) : Prop :=
  ∀ sources ∈ Source.discover? tree root extension, ∀ source ∈ sources,
    ∀ text ∈ Text.Utf8.decode? source.content, ∀ program ∈ compile? text.toList, Spares spared program.calls

instance [DecidablePred spared] (names : List String) : Decidable (Spares spared names) :=
  inferInstanceAs (Decidable (∀ name ∈ names, spared name))

instance [DecidablePred spared] (tree : File.Tree) (root : File.Pathname) (extension : String) :
    Decidable (SparingRoot spared tree root extension) :=
  inferInstanceAs (Decidable (∀ sources ∈ Source.discover? tree root extension, ∀ source ∈ sources,
    ∀ text ∈ Text.Utf8.decode? source.content, ∀ program ∈ compile? text.toList, Spares spared program.calls))

/-- The units of a cache are sparing, and so are the scripts that it will compile. -/
structure UnitCache.Sparing (spared : String → Prop) (tree : File.Tree) (cache : UnitCache) : Prop where
  sources : SparingRoot spared tree cache.root cache.extension
  units : SparingUnits spared cache.active.units

variable {tree : File.Tree} {root : File.Pathname} {extension : String} {cache : UnitCache}

/-- What a root spares may be weakened. -/
theorem SparingRoot.mono {other : String → Prop} (sparing : SparingRoot spared tree root extension)
    (implies : ∀ name, spared name → other name) : SparingRoot other tree root extension :=
  fun sources listed source member text decoded program compiled =>
    (sparing sources listed source member text decoded program compiled).mono implies

/-- What a cache spares may be weakened. -/
theorem UnitCache.Sparing.mono {other : String → Prop} (sparing : cache.Sparing spared tree)
    (implies : ∀ name, spared name → other name) : cache.Sparing other tree :=
  ⟨sparing.sources.mono implies, fun unit member => (sparing.units unit member).mono implies⟩

/-- A file is compiled from its own text, or an old unit is taken over. -/
theorem Compiled.ofSource_unit {previous : Option UnitSet} {source : Source} {unit : CompiledUnit}
    (made : (Compiled.ofSource previous root source).unit? = some unit) :
    (∃ set ∈ previous, unit ∈ set.units) ∨
      ∃ text, Text.Utf8.decode? source.content = some text ∧ compile? text.toList = some unit.program := by
  have afresh : ∀ {text : String}, Text.Utf8.decode? source.content = some text →
      (Compiled.ofText root source text.toList).unit? = some unit →
        ∃ text, Text.Utf8.decode? source.content = some text ∧ compile? text.toList = some unit.program := by
    intro text decoded made
    unfold Compiled.ofText at made
    split at made
    · next program compiled =>
        cases made
        exact ⟨text, decoded, compiled⟩
    · cases made
  unfold Compiled.ofSource at made
  split at made
  · cases made
  · next text decoded =>
      split at made
      · next old stood =>
          obtain ⟨set, held, stood⟩ := Option.bind_eq_some_iff.mp stood
          split at made
          · cases made
            exact Or.inl ⟨set, held, List.mem_reverse.mp (List.mem_of_find?_eq_some stood)⟩
          · exact Or.inr (afresh decoded made)
      · exact Or.inr (afresh decoded made)

/-- Neither new units nor the ones that were taken over call anything else. -/
theorem compileAll_sparing {previous : Option UnitSet} {compilation : Compilation}
    (sources : SparingRoot spared tree root extension)
    (old : ∀ set ∈ previous, SparingUnits spared set.units)
    (compiled : compileAll tree extension root previous = .ok compilation) :
    SparingUnits spared compilation.set.units := by
  unfold compileAll at compiled
  split at compiled
  · cases compiled
  · next found listed =>
      cases compiled
      intro unit member
      obtain ⟨result, member, made⟩ := List.mem_filterMap.mp member
      obtain ⟨source, part, rfl⟩ := List.mem_map.mp member
      obtain ⟨set, held, stood⟩ | ⟨text, decoded, compiled⟩ := Compiled.ofSource_unit made
      · exact old set held unit stood
      · exact sources found listed source part text decoded unit.program compiled

namespace UnitCache

/-- A new cache has no units, so only its sources have to be sparing. -/
theorem create_sparing {label : String} (sources : SparingRoot spared tree root (bareExtension extension)) :
    (create label root extension).Sparing spared tree :=
  ⟨sources, nofun⟩

/-- A sparing cache stays so when it is reloaded. -/
theorem Sparing.reload (sparing : cache.Sparing spared tree) : (cache.reload tree).1.Sparing spared tree := by
  have old : ∀ set ∈ some cache.active, SparingUnits spared set.units := by simpa using sparing.units
  unfold UnitCache.reload
  cases compiled : compileAll tree cache.extension cache.root (some cache.active) with
  | error error => exact sparing
  | ok compilation => exact ⟨sparing.sources, compileAll_sparing sparing.sources old compiled⟩

/-- A successful reload hands out the set that is active from then on. -/
theorem reload_set {set : UnitSet} (done : (cache.reload tree).2.2 = .ok set) : (cache.reload tree).1.active = set := by
  revert done
  unfold UnitCache.reload
  cases compileAll tree cache.extension cache.root (some cache.active) with
  | error error => exact nofun
  | ok compilation => exact fun done => Except.ok.inj done

end UnitCache

end ScriptHost.Script
