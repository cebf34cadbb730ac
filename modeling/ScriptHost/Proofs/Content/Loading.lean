/-
This file states which definitions a loader publishes: of each id the first that is valid. Every other unit
gives one error, and the error tells which check failed first.
-/
import Mathlib.Data.List.Nodup
import Mathlib.Data.List.TakeWhile
import ScriptHost.Content.Loader

namespace ScriptHost

namespace Text

def Blank (text : String) : Prop :=
  ∀ character ∈ text.toList, isBlank character = true

/-- Nothing is left of a text exactly if it is blank. -/
theorem trimChars_eq_nil {text : List Char} :
    trimChars text = [] ↔ ∀ character ∈ text, isBlank character = true := by
  rw [trimChars, List.reverse_eq_nil_iff, List.dropWhile_eq_nil_iff]
  simp only [List.mem_reverse]
  constructor
  · intro blank
    apply List.dropWhile_eq_nil_iff.mp
    by_contra left
    have opens := List.head_dropWhile_not isBlank left
    rw [blank _ (List.head_mem left)] at opens
    cases opens
  · intro blank character member
    exact blank character ((List.dropWhile_sublist isBlank).subset member)

/-- A blank text is the same as one that is empty once it is trimmed. -/
theorem trim_eq_empty {text : String} : trim text = "" ↔ Blank text := by
  rw [trim, ← String.toList_inj, String.toList_ofList]
  exact trimChars_eq_nil

end Text

namespace Content

open Script (CompiledUnit Outcome Outside Value)

/-- The value is a map of the kind that is asked for, its fields can be read, and its id is not blank. -/
def Defines (kind : Kind) (outcome : Outcome) (definition : Definition) : Prop :=
  ∃ entries, outcome = .value (.map entries) ∧
    Value.lookup "kind" entries = some (.string kind.label) ∧
    Definition.read? kind entries = some definition ∧ ¬ Text.Blank definition.id

/-- The checks are made in this order, and the error belongs to the first that fails. -/
inductive Fails (kind : Kind) (name : String) : Outcome → Error → Prop
  | failed (reason : String) : Fails kind name (.failed reason) (.failed (.failed name reason))
  | exhausted : Fails kind name .exhausted (.failed (.failed name "too many steps"))
  | panicked (message : String) : Fails kind name (.panicked message) (.panicked name message)
  | notAnObject (value : Value) (other : ∀ entries, value ≠ .map entries) :
      Fails kind name (.value value) (.notAnObject name)
  | wrongKind (entries : List (String × Value))
      (other : Value.lookup "kind" entries ≠ some (.string kind.label)) :
      Fails kind name (.value (.map entries)) (.wrongKind name kind (foundKind entries))
  | invalid (entries : List (String × Value))
      (right : Value.lookup "kind" entries = some (.string kind.label))
      (unread : Definition.read? kind entries = none) :
      Fails kind name (.value (.map entries)) (.invalid name kind)
  | emptyId (entries : List (String × Value)) (definition : Definition)
      (right : Value.lookup "kind" entries = some (.string kind.label))
      (read : Definition.read? kind entries = some definition) (blank : Text.Blank definition.id) :
      Fails kind name (.value (.map entries)) (.emptyId name)

variable {kind : Kind} {name : String} {outcome : Outcome} {definition : Definition} {error : Error}

/-- The kind that is found is the right one exactly if it is written so. -/
theorem foundKind_eq_label {entries : List (String × Value)} :
    foundKind entries = kind.label ↔ Value.lookup "kind" entries = some (.string kind.label) := by
  have named : "" ≠ kind.label := by cases kind <;> decide
  unfold foundKind
  cases Value.lookup "kind" entries with
  | none => simpa using named
  | some value => cases value <;> simp [Definition.string?, named]

/-- A value that defines something is taken. -/
theorem Defines.told (defines : Defines kind outcome definition) :
    ofOutcome kind name outcome = .ok definition := by
  obtain ⟨entries, rfl, right, read, solid⟩ := defines
  rw [ofOutcome, ofMap, if_neg (not_not.mpr (foundKind_eq_label.mpr right)), read]
  exact if_neg fun blank => solid (Text.trim_eq_empty.mp blank)

/-- A value that fails a check is refused with the error of that check. -/
theorem Fails.told (fails : Fails kind name outcome error) :
    ofOutcome kind name outcome = .error error := by
  cases fails with
  | failed | exhausted | panicked => rfl
  | notAnObject value other => cases value <;> first | rfl | exact absurd rfl (other _)
  | wrongKind entries other => exact if_pos fun same => other (foundKind_eq_label.mp same)
  | invalid entries right unread =>
      rw [ofOutcome, ofMap, if_neg (not_not.mpr (foundKind_eq_label.mpr right)), unread]
  | emptyId entries definition right read blank =>
      rw [ofOutcome, ofMap, if_neg (not_not.mpr (foundKind_eq_label.mpr right)), read]
      exact if_pos (Text.trim_eq_empty.mpr blank)

/-- An outcome is a definition, or one of the checks fails. -/
theorem defines_or_fails (kind : Kind) (name : String) (outcome : Outcome) :
    (∃ definition, Defines kind outcome definition) ∨ ∃ error, Fails kind name outcome error := by
  cases outcome with
  | failed reason => exact .inr ⟨_, .failed reason⟩
  | exhausted => exact .inr ⟨_, .exhausted⟩
  | panicked message => exact .inr ⟨_, .panicked message⟩
  | value value =>
      by_cases object : ∃ entries, value = .map entries
      · obtain ⟨entries, rfl⟩ := object
        by_cases right : Value.lookup "kind" entries = some (.string kind.label)
        · cases read : Definition.read? kind entries with
          | none => exact .inr ⟨_, .invalid entries right read⟩
          | some definition =>
              by_cases blank : Text.Blank definition.id
              · exact .inr ⟨_, .emptyId entries definition right read blank⟩
              · exact .inl ⟨definition, entries, rfl, right, read, blank⟩
        · exact .inr ⟨_, .wrongKind entries right⟩
      · exact .inr ⟨_, .notAnObject value fun entries same => object ⟨entries, same⟩⟩

/-- Exactly the values that define something are taken. -/
theorem ofOutcome_eq_ok : ofOutcome kind name outcome = .ok definition ↔ Defines kind outcome definition := by
  refine ⟨fun told => ?_, Defines.told⟩
  rcases defines_or_fails kind name outcome with ⟨other, defines⟩ | ⟨error, fails⟩
  · obtain rfl := Except.ok.inj (defines.told.symm.trans told)
    exact defines
  · cases fails.told.symm.trans told

/-- Exactly the values that fail a check are refused. -/
theorem ofOutcome_eq_error : ofOutcome kind name outcome = .error error ↔ Fails kind name outcome error := by
  refine ⟨fun told => ?_, Fails.told⟩
  rcases defines_or_fails kind name outcome with ⟨definition, defines⟩ | ⟨other, fails⟩
  · cases defines.told.symm.trans told
  · obtain rfl := Except.error.inj (fails.told.symm.trans told)
    exact fails

/-- What becomes of a unit when these definitions have been kept before it. -/
def Judged (kind : Kind) (kept : List Definition) (name : String) (outcome : Outcome) :
    Except Error Definition → Prop
  | .ok definition => Defines kind outcome definition ∧ definition.id ∉ kept.map Definition.id
  | .error error => Fails kind name outcome error ∨
      ∃ definition, Defines kind outcome definition ∧ definition.id ∈ kept.map Definition.id ∧
        error = .duplicateId name definition.id

/-- A definition is judged by its value and by the ones that were kept before. -/
theorem judge_eq {taken : List String} {kept : List Definition} {fate : Except Error Definition}
    (same : ∀ id, id ∈ taken ↔ id ∈ kept.map Definition.id) :
    judge kind taken name outcome = fate ↔ Judged kind kept name outcome fate := by
  unfold judge
  cases told : ofOutcome kind name outcome with
  | error error =>
      have fails := ofOutcome_eq_error.mp told
      have undefined : ∀ definition, ¬ Defines kind outcome definition :=
        fun definition defines => by cases (Defines.told defines).symm.trans told
      cases fate with
      | ok definition => simp [Judged, undefined]
      | error other =>
          dsimp only [Judged]
          rw [Except.error.injEq, ← ofOutcome_eq_error, told, Except.error.injEq]
          simp [undefined]
  | ok held =>
      have defines : ∀ definition, Defines kind outcome definition ↔ held = definition := by
        intro definition
        rw [← ofOutcome_eq_ok, told, Except.ok.injEq]
      have sound : ∀ error, ¬ Fails kind name outcome error :=
        fun error fails => by cases fails.told.symm.trans told
      have known : taken.contains held.id = true ↔ held.id ∈ kept.map Definition.id :=
        List.contains_iff_mem.trans (same held.id)
      dsimp only
      by_cases repeated : held.id ∈ kept.map Definition.id
      · rw [if_pos (known.mpr repeated)]
        cases fate with
        | ok definition =>
            simp only [Judged, defines, reduceCtorEq, false_iff]
            rintro ⟨rfl, new⟩
            exact new repeated
        | error error =>
            simp only [Judged, sound, defines, false_or, exists_eq_left', repeated, true_and, Except.error.injEq]
            exact eq_comm
      · rw [if_neg (mt known.mp repeated)]
        cases fate with
        | ok definition =>
            simp only [Judged, defines, Except.ok.injEq]
            exact ⟨fun same => ⟨same, same ▸ repeated⟩, And.left⟩
        | error error =>
            simp only [Judged, sound, defines, false_or, exists_eq_left', repeated, false_and, reduceCtorEq]

/-- Each unit is run once, in the order of the set, and it finds what the ones before it have left; what is
reported in between is no unit's concern. -/
inductive Evaluates : List CompiledUnit → Outside → List (String × Outcome) → Outside → Prop
  | nil (outside : Outside) : Evaluates [] outside [] outside
  | cons {unit : CompiledUnit} {rest : List CompiledUnit} {outside after last : Outside} {outcome : Outcome}
      {evaluated : List (String × Outcome)} (records : List TraceRecord)
      (ran : unit.program.run contentVariables outside = (outcome, after))
      (others : Evaluates rest { after with records := after.records ++ records } evaluated last) :
      Evaluates (unit :: rest) outside ((unit.name, outcome) :: evaluated) last

/-- The definitions of the units that are kept. -/
def keptOf (fates : List (Except Error Definition)) : List Definition :=
  fates.filterMap Except.toOption

def errorOf? : Except Error Definition → Option Error
  | .ok _ => none
  | .error error => some error

/-- Each unit has the fate that follows from its outcome and from the units that were kept before it. -/
structure Sifted (kind : Kind) (earlier : List Definition) (evaluated : List (String × Outcome))
    (fates : List (Except Error Definition)) : Prop where
  length : fates.length = evaluated.length
  judged : ∀ (place : Nat) (name : String) (outcome : Outcome), evaluated[place]? = some (name, outcome) →
    ∀ fate, fates[place]? = some fate ↔
      Judged kind (earlier ++ keptOf (fates.take place)) name outcome fate

variable {earlier : List Definition} {evaluated : List (String × Outcome)} {fate : Except Error Definition}
  {fates : List (Except Error Definition)} {units : List CompiledUnit} {outside : Outside}

/-- The judgement of a unit is determined. -/
theorem Judged.single {kept : List Definition} {other : Except Error Definition}
    (judged : Judged kind kept name outcome fate) : other = fate ↔ Judged kind kept name outcome other := by
  have same : ∀ id, id ∈ kept.map Definition.id ↔ id ∈ kept.map Definition.id := fun _ => Iff.rfl
  rw [← judge_eq same, (judge_eq same).mpr judged, eq_comm]

/-- The fate of the first unit is judged before the others are sifted. -/
theorem Sifted.cons (judged : Judged kind earlier name outcome fate)
    (others : Sifted kind (earlier ++ keptOf [fate]) evaluated fates) :
    Sifted kind earlier ((name, outcome) :: evaluated) (fate :: fates) where
  length := congrArg (· + 1) others.length
  judged := by
    intro place name' outcome' here other
    cases place with
    | zero =>
        obtain ⟨rfl, rfl⟩ := Prod.mk.inj (Option.some.inj here)
        change some fate = some other ↔ Judged kind (earlier ++ []) name outcome other
        rw [List.append_nil, Option.some.injEq, eq_comm]
        exact judged.single
    | succ place =>
        have split : ([fate] ++ fates.take place).filterMap Except.toOption =
            keptOf [fate] ++ keptOf (fates.take place) := List.filterMap_append
        change _ ↔ Judged kind (earlier ++ ([fate] ++ fates.take place).filterMap Except.toOption) _ _ _
        rw [split, ← List.append_assoc]
        exact others.judged place name' outcome' here other

/-- The units are judged in their order, whatever came of the ones before. -/
theorem loadUnits_sifts (kind : Kind) {taken : List String} (units : List CompiledUnit) (outside : Outside)
    (same : ∀ id, id ∈ taken ↔ id ∈ earlier.map Definition.id) :
    ∃ evaluated fates, Evaluates units outside evaluated (loadUnits kind taken units outside).2 ∧
      Sifted kind earlier evaluated fates ∧
      (loadUnits kind taken units outside).1 = ⟨keptOf fates, fates.filterMap errorOf?⟩ := by
  -- Each unit is judged by the identifiers that are taken before it, so these are carried along.
  induction units generalizing taken earlier outside with
  | nil => exact ⟨[], [], .nil outside, ⟨rfl, fun place name outcome here => by cases here⟩, rfl⟩
  | cons unit rest ih =>
      unfold loadUnits
      cases ran : unit.program.run contentVariables outside with
      | mk outcome after =>
          dsimp only
          cases fate : judge kind taken unit.name outcome with
          | ok definition =>
              dsimp only
              have grown : ∀ id, id ∈ definition.id :: taken ↔
                  id ∈ (earlier ++ keptOf [.ok definition]).map Definition.id := by
                intro id
                rw [List.mem_cons, List.map_append, List.mem_append, same, or_comm]
                simp [keptOf, Except.toOption]
              obtain ⟨evaluated, fates, evaluates, sifted, loaded⟩ := ih after grown
              refine ⟨_, .ok definition :: fates, .cons [] ran ?_, sifted.cons ((judge_eq same).mp fate), ?_⟩
              · rwa [List.append_nil]
              · rw [loaded]
                rfl
          | error error =>
              dsimp only
              have still : ∀ id, id ∈ taken ↔ id ∈ (earlier ++ keptOf [.error error]).map Definition.id := by
                intro id
                rw [same]
                simp [keptOf, Except.toOption]
              obtain ⟨evaluated, fates, evaluates, sifted, loaded⟩ :=
                ih (after.report (skipRecord kind error)) still
              refine ⟨_, .error error :: fates, .cons _ ran evaluates, sifted.cons ((judge_eq same).mp fate), ?_⟩
              rw [loaded]
              rfl

/-- Every unit is evaluated once, in order. -/
theorem Evaluates.names {after : Outside} (evaluates : Evaluates units outside evaluated after) :
    evaluated.map Prod.fst = units.map CompiledUnit.name := by
  induction evaluates with
  | nil => rfl
  | cons _ _ _ ih => rw [List.map_cons, List.map_cons, ih]

/-- Each unit is kept, or it gives one error. -/
theorem kept_add_errors (fates : List (Except Error Definition)) :
    (keptOf fates).length + (fates.filterMap errorOf?).length = fates.length := by
  induction fates with
  | nil => rfl
  | cons fate rest ih =>
      unfold keptOf at ih ⊢
      rw [List.filterMap_cons, List.filterMap_cons, List.length_cons]
      cases fate <;> simp only [errorOf?, Except.toOption, List.length_cons] <;> omega

/-- A definition is kept exactly if it is the fate of a unit. -/
theorem mem_keptOf : definition ∈ keptOf fates ↔ ∃ place : Nat, fates[place]? = some (.ok definition) := by
  rw [keptOf, List.mem_filterMap]
  constructor
  · rintro ⟨fate, member, told⟩
    obtain ⟨place, here⟩ := List.mem_iff_getElem?.mp member
    cases fate with
    | error => cases told
    | ok other =>
        obtain rfl := Option.some.inj told
        exact ⟨place, here⟩
  · rintro ⟨place, here⟩
    exact ⟨_, List.mem_of_getElem? here, rfl⟩

variable {place other : Nat}

/-- A unit that is kept has been judged so. -/
theorem Sifted.accepted (sifted : Sifted kind earlier evaluated fates)
    (here : fates[place]? = some (.ok definition)) :
    ∃ outcome, Defines kind outcome definition ∧
      definition.id ∉ (earlier ++ keptOf (fates.take place)).map Definition.id := by
  obtain ⟨inside, -⟩ := List.getElem?_eq_some_iff.mp here
  rw [sifted.length] at inside
  exact ⟨_, (sifted.judged place _ _ (List.getElem?_eq_getElem inside) _).mp here⟩

/-- No two units that are kept have one id. -/
theorem Sifted.apart (sifted : Sifted kind earlier evaluated fates) {later : Definition}
    (before : place < other) (here : fates[place]? = some (.ok definition))
    (there : fates[other]? = some (.ok later)) : definition.id ≠ later.id := by
  intro same
  obtain ⟨-, -, new⟩ := sifted.accepted there
  apply new
  have member : definition ∈ keptOf (fates.take other) :=
    mem_keptOf.mpr ⟨place, by rwa [List.getElem?_take_of_lt before]⟩
  exact List.mem_map.mpr ⟨definition, List.mem_append_right _ member, same⟩

/-- The ids of what is kept are distinct. -/
theorem Sifted.distinct (sifted : Sifted kind earlier evaluated fates) :
    ((keptOf fates).map Definition.id).Nodup := by
  rw [List.Nodup, List.pairwise_map, keptOf, List.pairwise_filterMap, List.pairwise_iff_getElem]
  intro place other inside inside' before definition kept later kept'
  have told : ∀ {place : Nat} {definition : Definition} (inside : place < fates.length),
      fates[place].toOption = some definition → fates[place]? = some (.ok definition) := by
    intro place definition inside kept
    rw [List.getElem?_eq_getElem inside]
    revert kept
    cases fates[place] with
    | error => exact fun kept => by cases kept
    | ok held => exact fun kept => congrArg (some ∘ Except.ok) (Option.some.inj kept)
  exact sifted.apart before (told inside kept) (told inside' kept')

/-- A definition is looked up by its id, and it comes from the first unit that was kept under that id. -/
theorem Sifted.find (sifted : Sifted kind earlier evaluated fates) (id : String) :
    (keptOf fates).find? (fun definition => definition.id == id) = some definition ↔
      ∃ place : Nat, fates[place]? = some (.ok definition) ∧ definition.id = id ∧
        ∀ before < place, ∀ other, fates[before]? = some (.ok other) → other.id ≠ id := by
  constructor
  · intro found
    obtain ⟨place, here⟩ := mem_keptOf.mp (List.mem_of_find?_eq_some found)
    have named : definition.id = id := by simpa using List.find?_some found
    refine ⟨place, here, named, fun before earlier other there => ?_⟩
    rw [← named]
    exact sifted.apart earlier there here
  · rintro ⟨place, here, rfl, -⟩
    have member := mem_keptOf.mpr ⟨place, here⟩
    cases found : (keptOf fates).find? fun other => other.id == definition.id with
    | none => simpa using List.find?_eq_none.mp found definition member
    | some held =>
        have named : held.id = definition.id := by simpa using List.find?_some found
        rw [List.inj_on_of_nodup_map sifted.distinct (List.mem_of_find?_eq_some found) member named]

/-- A load keeps of each id the first valid definition, and every other unit gives one error. -/
structure Loads (kind : Kind) (units : List CompiledUnit) (outside : Outside) (loaded : Loaded)
    (after : Outside) (evaluated : List (String × Outcome)) (fates : List (Except Error Definition)) : Prop where
  evaluates : Evaluates units outside evaluated after
  sifted : Sifted kind [] evaluated fates
  definitions : loaded.definitions = keptOf fates
  skipped : loaded.skipped = fates.filterMap errorOf?
  whole : loaded.definitions.length + loaded.skipped.length = units.length
  distinct : (loaded.definitions.map Definition.id).Nodup
  solid : ∀ definition ∈ loaded.definitions, ¬ Text.Blank definition.id

/-- Loading evaluates the units one after the other and sifts what they give. -/
theorem loadUnits_loads (kind : Kind) (units : List CompiledUnit) (outside : Outside) :
    ∃ evaluated fates, Loads kind units outside (loadUnits kind [] units outside).1
      (loadUnits kind [] units outside).2 evaluated fates := by
  have start : ∀ id, id ∈ ([] : List String) ↔ id ∈ ([] : List Definition).map Definition.id := fun _ => Iff.rfl
  obtain ⟨evaluated, fates, evaluates, sifted, loaded⟩ := loadUnits_sifts kind units outside start
  have length : fates.length = units.length := by
    rw [sifted.length, ← List.length_map Prod.fst, evaluates.names, List.length_map]
  refine ⟨evaluated, fates, evaluates, sifted, ?_, ?_, ?_, ?_, ?_⟩
  all_goals rw [loaded]
  · rw [← length]
    exact kept_add_errors fates
  · exact sifted.distinct
  · intro definition member
    obtain ⟨place, here⟩ := mem_keptOf.mp member
    obtain ⟨outcome, ⟨entries, -, -, -, solid⟩, -⟩ := sifted.accepted here
    exact solid

/-- The scripts of a loader are compiled as those of any cache. -/
theorem Loader.reload_cache {tree : File.Tree} {loader : Loader} {outside : Outside} :
    (loader.reload tree outside).1.cache = (loader.cache.reload tree).1 := by
  unfold Loader.reload
  split <;> next same => rw [same]

/-- A reload publishes what was kept in place of the whole former list, unless the root cannot be read: then the
cache and the list stay, and no unit is run. -/
structure Reloads (tree : File.Tree) (loader : Loader) (outside : Outside) : Prop where
  unreadable : tree.list? loader.cache.root = none →
    loader.reload tree outside =
      (loader, outside.report (loader.cache.keepingRecord (.unreadableRoot loader.cache.root)),
        .error (.unreadableRoot loader.cache.root))
  readable : tree.list? loader.cache.root ≠ none →
    ∃ compilation loaded records after evaluated fates,
      Script.compileAll tree loader.cache.extension loader.cache.root (some loader.cache.active) =
        .ok compilation ∧
      loader.reload tree outside =
        (⟨loader.kind, { loader.cache with
          active := compilation.set, reloads := loader.cache.reloads + 1 }, loaded.definitions⟩,
          after, .ok loaded) ∧
      Loads loader.kind compilation.set.units { outside with records := outside.records ++ records } loaded
        after evaluated fates ∧
      ∀ id definition, (loader.reload tree outside).1.find? id = some definition ↔
        ∃ place : Nat, fates[place]? = some (.ok definition) ∧ definition.id = id ∧
          ∀ before < place, ∀ other, fates[before]? = some (.ok other) → other.id ≠ id

/-- The records are added in order. -/
theorem foldl_report (records : List TraceRecord) (outside : Outside) :
    records.foldl Outside.report outside = { outside with records := outside.records ++ records } := by
  induction records generalizing outside with
  | nil => rw [List.foldl_nil, List.append_nil]
  | cons record rest ih =>
      rw [List.foldl_cons, ih]
      simp only [Outside.report, List.append_assoc, List.singleton_append]

/-- A reload publishes what the new set loads, or it keeps everything. -/
theorem reload_reloads (tree : File.Tree) (loader : Loader) (outside : Outside) :
    Reloads tree loader outside where
  unreadable missing := by
    have undiscovered : Script.Source.discover? tree loader.cache.root loader.cache.extension = none := by
      unfold Script.Source.discover?
      rw [missing]
      rfl
    rw [Loader.reload, Script.UnitCache.reload, Script.compileAll, undiscovered]
    rfl
  readable listed := by
    obtain ⟨files, listed⟩ := Option.ne_none_iff_exists'.mp listed
    obtain ⟨compilation, compiled⟩ : ∃ compilation,
        Script.compileAll tree loader.cache.extension loader.cache.root (some loader.cache.active) =
          .ok compilation := by
      unfold Script.compileAll Script.Source.discover?
      rw [listed]
      exact ⟨_, rfl⟩
    have loads := loadUnits_loads loader.kind compilation.set.units
      { outside with records := outside.records ++ compilation.failures.map loader.cache.failureRecord }
    cases result : loadUnits loader.kind [] compilation.set.units
      { outside with records := outside.records ++ compilation.failures.map loader.cache.failureRecord } with
    | mk loaded after =>
        rw [result] at loads
        obtain ⟨evaluated, fates, loads⟩ := loads
        have done : loader.reload tree outside = (⟨loader.kind, { loader.cache with
            active := compilation.set, reloads := loader.cache.reloads + 1 }, loaded.definitions⟩,
            after, .ok loaded) := by
          rw [Loader.reload, Script.UnitCache.reload, compiled]
          dsimp only
          rw [foldl_report, result]
        refine ⟨compilation, loaded, _, after, evaluated, fates, compiled, done, loads, fun id definition => ?_⟩
        rw [done, Loader.find?, loads.definitions]
        exact loads.sifted.find id

/-- Loaders keep the first valid definition of each id. -/
theorem loading_keeps_first (kind : Kind) (units : List CompiledUnit) (outside : Outside)
    (tree : File.Tree) (loader : Loader) :
    (∃ evaluated fates, Loads kind units outside (loadUnits kind [] units outside).1
      (loadUnits kind [] units outside).2 evaluated fates) ∧ Reloads tree loader outside :=
  ⟨loadUnits_loads kind units outside, reload_reloads tree loader outside⟩

end Content

end ScriptHost
