/-
This file says what the operations of an entity store do to the texts behind each handle.
-/
import Mathlib.Data.List.Induction
import Mathlib.Data.List.Nodup
import ScriptHost.Engine.Store

namespace ScriptHost

section Tables

/-- The first entry of a key is found. -/
theorem findText_cons (key name value : String) (table : List (String × String)) :
    findText key ((name, value) :: table) = if name = key then some value else findText key table := by
  by_cases same : name = key
  · simp only [findText, List.find?_cons, same, beq_self_eq_true, Option.map_some, if_true]
  · simp only [findText, List.find?_cons, beq_eq_false_iff_ne.mpr same, same, if_false]

/-- The order of the table does not matter here. -/
theorem findText_put (key name value : String) (table : List (String × String)) :
    findText key (Json.put name value table) = if name = key then some value else findText key table := by
  induction table with
  | nil => exact findText_cons key name value []
  | cons entry rest ih =>
      obtain ⟨other, kept⟩ := entry
      rw [Json.put]
      split
      · exact findText_cons key name value _
      · split
        · next equal =>
            subst equal
            rw [findText_cons, findText_cons]
            split <;> rfl
        · next different =>
            rw [findText_cons, ih, findText_cons]
            by_cases first : other = key
            · rw [if_pos first, if_neg fun same => different (same.trans first.symm), if_pos first]
            · rw [if_neg first, if_neg first]

/-- A text that was removed is not found, and the others are. -/
theorem findText_removeText (key name : String) (table : List (String × String)) :
    findText key (removeText name table) = if name = key then none else findText key table := by
  induction table with
  | nil => exact (ite_self none).symm
  | cons entry rest ih =>
      obtain ⟨other, kept⟩ := entry
      by_cases gone : other = name
      · have filtered : removeText name ((other, kept) :: rest) = removeText name rest :=
          List.filter_cons_of_neg fun passes => bne_iff_ne.mp passes gone
        rw [filtered, ih, findText_cons]
        by_cases same : name = key
        · rw [if_pos same, if_pos same]
        · rw [if_neg same, if_neg same, if_neg fun equal => same (gone.symm.trans equal)]
      · have kept' : removeText name ((other, kept) :: rest) = (other, kept) :: removeText name rest :=
          List.filter_cons_of_pos (bne_iff_ne.mpr gone)
        rw [kept', findText_cons, findText_cons, ih]
        by_cases first : other = key
        · rw [if_pos first, if_pos first, if_neg fun same => gone (first.trans same.symm)]
        · rw [if_neg first, if_neg first]

/-- The last entry of a key wins. -/
theorem findText_sortMembers (key : String) (entries : List (String × String)) :
    findText key (Json.sortMembers entries) = findText key entries.reverse := by
  unfold Json.sortMembers
  induction entries using List.reverseRecOn with
  | nil => rfl
  | append_singleton front entry ih =>
      obtain ⟨name, value⟩ := entry
      rw [List.foldl_append, List.foldl_cons, List.foldl_nil, findText_put, ih, List.reverse_append,
        List.reverse_singleton, List.singleton_append, findText_cons]

end Tables

namespace EntityStore

section Handles

/-- Two halves of a word name the generation and the place. -/
theorem bits_entityOf {generation index : Nat} (young : generation < 0x80000000) (inside : index < 0x100000000) :
    (entityOf generation index).bits.toNat = generation * 0x100000000 + index := by
  rw [entityOf, UInt64.toNat_ofNat']
  exact Nat.mod_eq_of_lt (by omega)

/-- The index of a handle is read back. -/
theorem indexOf_entityOf {generation index : Nat} (young : generation < 0x80000000) (inside : index < 0x100000000) :
    indexOf (entityOf generation index) = index := by
  rw [indexOf, bits_entityOf young inside]
  omega

/-- The generation of a handle is read back. -/
theorem generationOf_entityOf {generation index : Nat} (young : generation < 0x80000000)
    (inside : index < 0x100000000) :
    generationOf (entityOf generation index) = generation := by
  rw [generationOf, bits_entityOf young inside]
  omega

/-- A handle is made of its generation and its index. -/
theorem entityOf_generationOf (entity : Entity) : entityOf (generationOf entity) (indexOf entity) = entity := by
  obtain ⟨bits⟩ := entity
  have whole : bits.toNat / 0x100000000 * 0x100000000 + bits.toNat % 0x100000000 = bits.toNat := by omega
  rw [entityOf, generationOf, indexOf, whole, UInt64.ofNat_toNat]

/-- Handles that share generation and index are equal. -/
theorem entity_ext {left right : Entity} (generation : generationOf left = generationOf right)
    (index : indexOf left = indexOf right) : left = right := by
  rw [← entityOf_generationOf left, generation, index, entityOf_generationOf]

end Handles

/-- Places are numbered with one half of a word, and the generations stay below half the range of the other. -/
structure Bounded (store : EntityStore) : Prop where
  places : store.places.length ≤ 0x100000000
  young : ∀ place ∈ store.places, place.generation < 0x80000000

/-- A place that no entity has had yet is empty, and its generation is the first one. -/
def placeAt (store : EntityStore) (index : Nat) : Place :=
  store.places[index]?.getD ⟨1, none⟩

/-- The free places are the ones without texts, and each stands once in the list. -/
structure Orderly (store : EntityStore) : Prop where
  distinct : store.free.Nodup
  vacant : ∀ index, index ∈ store.free ↔ index < store.places.length ∧ (store.placeAt index).texts = none
  counted : ∀ index, 1 ≤ (store.placeAt index).generation

/-- A handle was given out for a generation of its place that has begun. -/
def Used (store : EntityStore) (entity : Entity) : Prop :=
  1 ≤ generationOf entity ∧
    (generationOf entity < (store.placeAt (indexOf entity)).generation ∨
      generationOf entity = (store.placeAt (indexOf entity)).generation ∧
        (store.placeAt (indexOf entity)).texts.isSome)

/-- Places are never given up, and their generations never fall. -/
structure Grows (before after : EntityStore) : Prop where
  length : before.places.length ≤ after.places.length
  older : ∀ index, (before.placeAt index).generation ≤ (after.placeAt index).generation

/-- A store has grown from itself. -/
theorem Grows.refl (store : EntityStore) : Grows store store :=
  ⟨Nat.le_refl _, fun _ => Nat.le_refl _⟩

/-- Growth is transitive. -/
theorem Grows.trans {first second third : EntityStore} (early : Grows first second) (late : Grows second third) :
    Grows first third :=
  ⟨Nat.le_trans early.length late.length, fun index => Nat.le_trans (early.older index) (late.older index)⟩

variable {store before after : EntityStore} {entity : Entity} {texts : Texts} {index : Nat} {place : Place}

/-- A place that is held is read. -/
theorem placeAt_of_getElem? (held : store.places[index]? = some place) : store.placeAt index = place := by
  rw [placeAt, held]
  rfl

/-- A place beyond the end is new and empty. -/
theorem placeAt_beyond (beyond : store.places.length ≤ index) : store.placeAt index = ⟨1, none⟩ := by
  rw [placeAt, List.getElem?_eq_none beyond]
  rfl

/-- A place within the list is held. -/
theorem getElem?_placeAt (inside : index < store.places.length) :
    store.places[index]? = some (store.placeAt index) := by
  rw [placeAt, List.getElem?_eq_getElem inside]
  rfl

/-- No generation is near its end. -/
theorem Bounded.young_at (bounded : store.Bounded) (index : Nat) : (store.placeAt index).generation < 0x80000000 := by
  rcases Nat.lt_or_ge index store.places.length with inside | beyond
  · exact bounded.young _ (List.mem_of_getElem? (getElem?_placeAt inside))
  · rw [placeAt_beyond beyond]
    decide

/-- A store that has grown into a bounded one was bounded. -/
theorem Bounded.of_grows (grows : Grows before after) (bounded : after.Bounded) : before.Bounded where
  places := Nat.le_trans grows.length bounded.places
  young place held := by
    obtain ⟨index, atIndex⟩ := List.mem_iff_getElem?.mp held
    rw [← placeAt_of_getElem? atIndex]
    exact Nat.lt_of_le_of_lt (grows.older index) (bounded.young_at index)

/-- An entity has the texts of its place if the generation is its own. -/
theorem texts?_eq (store : EntityStore) (entity : Entity) :
    store.texts? entity =
      if (store.placeAt (indexOf entity)).generation = generationOf entity then (store.placeAt (indexOf entity)).texts
      else none := by
  unfold texts? placeAt
  rcases store.places[indexOf entity]? with - | place
  · exact (ite_self none).symm
  · rfl

/-- A living entity fills its place. -/
theorem placeAt_of_texts? (alive : store.texts? entity = some texts) :
    store.placeAt (indexOf entity) = ⟨generationOf entity, some texts⟩ := by
  rw [texts?_eq] at alive
  split at alive
  · next same => rw [← same, ← alive]
  · exact nomatch alive

/-- A living entity has a place. -/
theorem indexOf_lt (alive : store.texts? entity = some texts) : indexOf entity < store.places.length := by
  rcases Nat.lt_or_ge (indexOf entity) store.places.length with inside | beyond
  · exact inside
  · have vacant := placeAt_beyond beyond
    rw [placeAt_of_texts? alive] at vacant
    exact absurd (congrArg Place.texts vacant) nofun

/-- The empty store is in order. -/
theorem empty_orderly : empty.Orderly where
  distinct := List.nodup_nil
  vacant index := ⟨nofun, fun inside => absurd inside.1 (Nat.not_lt_zero index)⟩
  counted _ := Nat.le_refl 1

/-- No handle of the empty store is used. -/
theorem not_used_empty (entity : Entity) : ¬ empty.Used entity := by
  rintro ⟨counted, older | here⟩
  · exact Nat.not_lt_of_le counted older
  · exact Bool.false_ne_true here.2

/-- The stores differ at one place at most. -/
structure Replaces (before after : EntityStore) (index : Nat) (place : Place) : Prop where
  here : after.placeAt index = place
  elsewhere : ∀ other, other ≠ index → after.placeAt other = before.placeAt other

/-- Setting a place replaces it and no other. -/
theorem replaces_set {free : List Nat} (inside : index < store.places.length) :
    Replaces store ⟨store.places.set index place, free⟩ index place where
  here := placeAt_of_getElem? (List.getElem?_set_self inside)
  elsewhere other away := by rw [placeAt, List.getElem?_set_ne (Ne.symm away), placeAt]

/-- Appending a place fills the one behind the end. -/
theorem replaces_append {free : List Nat} :
    Replaces store ⟨store.places ++ [place], free⟩ store.places.length place where
  here := placeAt_of_getElem? List.getElem?_concat_length
  elsewhere other away := by
    rcases Nat.lt_or_gt_of_ne away with before | after
    · rw [placeAt, List.getElem?_append_left before, placeAt]
    · rw [placeAt_beyond (Nat.le_of_lt after),
        placeAt_beyond (by rw [List.length_append, List.length_singleton]; exact after)]

namespace Replaces

variable (replaces : Replaces before after index place)

include replaces

/-- Texts of other places stay. -/
theorem texts?_elsewhere (away : indexOf entity ≠ index) : after.texts? entity = before.texts? entity := by
  rw [texts?_eq, texts?_eq, replaces.elsewhere _ away]

/-- Handles of other places are used as before. -/
theorem used_elsewhere (away : indexOf entity ≠ index) : after.Used entity ↔ before.Used entity := by
  unfold Used
  rw [replaces.elsewhere _ away]

/-- The texts of the replaced place are read from the new one. -/
theorem texts?_here (there : indexOf entity = index) :
    after.texts? entity = if place.generation = generationOf entity then place.texts else none := by
  rw [texts?_eq, there, replaces.here]

/-- The handles of the replaced place are the ones up to its generation. -/
theorem used_here (there : indexOf entity = index) :
    after.Used entity ↔ 1 ≤ generationOf entity ∧
      (generationOf entity < place.generation ∨ generationOf entity = place.generation ∧ place.texts.isSome) := by
  unfold Used
  rw [there, replaces.here]

/-- Generations begin with one everywhere. -/
theorem counted (countedBefore : ∀ other, 1 ≤ (before.placeAt other).generation) (begun : 1 ≤ place.generation)
    (other : Nat) : 1 ≤ (after.placeAt other).generation := by
  by_cases there : other = index
  · rw [there, replaces.here]
    exact begun
  · rw [replaces.elsewhere other there]
    exact countedBefore other

/-- A store grows if the replaced generation rises. -/
theorem grows (length : before.places.length ≤ after.places.length)
    (rises : (before.placeAt index).generation ≤ place.generation) : Grows before after where
  length := length
  older other := by
    by_cases there : other = index
    · rw [there, replaces.here]
      exact rises
    · exact Nat.le_of_eq (congrArg Place.generation (replaces.elsewhere other there).symm)

end Replaces

/-- A store grows if the generation that is set rises. -/
theorem set_grows {free : List Nat} (rises : (store.placeAt index).generation ≤ place.generation) :
    Grows store ⟨store.places.set index place, free⟩ := by
  rcases Nat.lt_or_ge index store.places.length with inside | beyond
  · exact (replaces_set inside).grows (Nat.le_of_eq List.length_set.symm) rises
  · rw [List.set_eq_of_length_le beyond]
    exact ⟨Nat.le_refl _, fun _ => Nat.le_refl _⟩

/-- A new entity has a handle of its own, and nothing else changes. -/
structure Spawned (before after : EntityStore) (entity : Entity) (data : List (String × String)) : Prop where
  orderly : after.Orderly
  fresh : ¬ before.Used entity
  used : ∀ other, after.Used other ↔ other = entity ∨ before.Used other
  texts : ∀ other, after.texts? other = if other = entity then some ⟨data, []⟩ else before.texts? other

section Spawn

variable {data : List (String × String)} {generation : Nat}

/-- The place was empty, and it keeps its generation. -/
theorem Replaces.spawned (replaces : Replaces before after index ⟨generation, some ⟨data, []⟩⟩)
    (vacant : before.placeAt index = ⟨generation, none⟩) (begun : 1 ≤ generation) (young : generation < 0x80000000)
    (inside : index < 0x100000000) (orderly : after.Orderly) :
    Spawned before after (entityOf generation index) data := by
  have atIndex := indexOf_entityOf young inside
  have atGeneration := generationOf_entityOf young inside
  have unlike {other : Entity} (away : indexOf other ≠ index) : other ≠ entityOf generation index :=
    fun same => away (same ▸ atIndex)
  have named {other : Entity} (there : indexOf other = index) :
      other = entityOf generation index ↔ generationOf other = generation :=
    ⟨fun same => same ▸ atGeneration, fun same => entity_ext (same.trans atGeneration.symm) (there.trans atIndex.symm)⟩
  have usedBefore {other : Entity} (there : indexOf other = index) :
      before.Used other ↔ 1 ≤ generationOf other ∧ generationOf other < generation := by
    unfold Used
    rw [there, vacant]
    simp only [Option.isSome_none, Bool.false_eq_true, and_false, or_false]
  refine ⟨orderly, ?_, fun other => ?_, fun other => ?_⟩
  · rw [usedBefore atIndex, atGeneration]
    exact fun older => Nat.lt_irrefl _ older.2
  · by_cases there : indexOf other = index
    · rw [replaces.used_here there, usedBefore there, named there]
      simp only [Option.isSome_some, and_true]
      omega
    · rw [replaces.used_elsewhere there]
      exact ⟨.inr, fun either => either.resolve_left (unlike there)⟩
  · by_cases there : indexOf other = index
    · have before : before.texts? other = none := by
        rw [texts?_eq, there, vacant, ite_self]
      rw [replaces.texts?_here there, before]
      exact if_congr (eq_comm.trans (named there).symm) rfl rfl
    · rw [replaces.texts?_elsewhere there, if_neg (unlike there)]

/-- A place from the free list is taken under its own generation. -/
theorem spawn_reused {rest : List Nat} (orderly : store.Orderly) (bounded : store.Bounded)
    (free : store.free = index :: rest) :
    let generation := (store.placeAt index).generation
    Spawned store ⟨store.places.set index ⟨generation, some ⟨data, []⟩⟩, rest⟩ (entityOf generation index) data := by
  intro generation
  obtain ⟨inside, empty⟩ := (orderly.vacant index).mp (free ▸ List.mem_cons_self)
  have replaces : Replaces store ⟨store.places.set index ⟨generation, some ⟨data, []⟩⟩, rest⟩ index
    ⟨generation, some ⟨data, []⟩⟩ := replaces_set inside
  have distinct := orderly.distinct
  rw [free] at distinct
  obtain ⟨gone, distinct⟩ := List.nodup_cons.mp distinct
  refine replaces.spawned (by rw [← empty]) (orderly.counted index) (bounded.young_at index)
    (Nat.lt_of_lt_of_le inside bounded.places)
    ⟨distinct, fun other => ?_, replaces.counted orderly.counted (orderly.counted index)⟩
  rw [List.length_set]
  by_cases there : other = index
  · rw [there, replaces.here]
    exact ⟨fun held => absurd held gone, fun both => nomatch both.2⟩
  · rw [replaces.elsewhere other there, ← orderly.vacant other, free, List.mem_cons]
    exact ⟨.inr, fun listed => listed.resolve_left there⟩

/-- Without free places a new one is appended. -/
theorem spawn_appended (orderly : store.Orderly) (full : store.free = []) (inside : store.places.length < 0x100000000) :
    Spawned store ⟨store.places ++ [⟨1, some ⟨data, []⟩⟩], []⟩ (entityOf 1 store.places.length) data := by
  have replaces : Replaces store ⟨store.places ++ [⟨1, some ⟨data, []⟩⟩], []⟩ store.places.length
    ⟨1, some ⟨data, []⟩⟩ := replaces_append
  refine replaces.spawned (placeAt_beyond (Nat.le_refl _)) (Nat.le_refl 1) (by decide) inside
    ⟨List.nodup_nil, fun other => ?_, replaces.counted orderly.counted (Nat.le_refl 1)⟩
  refine ⟨nofun, fun both => ?_⟩
  by_cases there : other = store.places.length
  · rw [there, replaces.here] at both
    exact nomatch both.2
  · rw [replaces.elsewhere other there, List.length_append, List.length_singleton] at both
    have vacant := (orderly.vacant other).mpr ⟨by omega, both.2⟩
    rw [full] at vacant
    exact nomatch vacant

/-- Spawning only grows a store. -/
theorem spawn_grows (store : EntityStore) (data : List (String × String)) : Grows store (store.spawn data).1 := by
  unfold spawn
  split
  · exact set_grows (Nat.le_refl _)
  · refine replaces_append.grows (by rw [List.length_append]; exact Nat.le_add_right _ _) ?_
    have first := congrArg Place.generation (placeAt_beyond (Nat.le_refl store.places.length))
    exact Nat.le_of_eq first

/-- Spawning fills a place that nobody used and changes no other. -/
theorem spawn_spawned (orderly : store.Orderly) (bounded : (store.spawn data).1.Bounded) :
    Spawned store (store.spawn data).1 (store.spawn data).2 data := by
  have before := bounded.of_grows (spawn_grows store data)
  unfold spawn at bounded ⊢
  split at bounded
  · next free => exact spawn_reused orderly before free
  · next full =>
      have inside := bounded.places
      rw [List.length_append, List.length_singleton] at inside
      exact spawn_appended orderly full inside

end Spawn

section Change

variable (alive : store.texts? entity = some texts)

include alive

/-- Destroying empties a place and raises its generation. -/
theorem destroy_replaces : Replaces store (store.destroy entity) (indexOf entity) ⟨generationOf entity + 1, none⟩ :=
  replaces_set (indexOf_lt alive)

/-- Destroying only grows a store. -/
theorem destroy_grows : Grows store (store.destroy entity) := by
  refine set_grows ?_
  rw [placeAt_of_texts? alive]
  exact Nat.le_succ _

/-- Destroying takes the texts of one entity away. -/
theorem destroy_texts? (other : Entity) :
    (store.destroy entity).texts? other = if other = entity then none else store.texts? other := by
  by_cases there : indexOf other = indexOf entity
  · rw [(destroy_replaces alive).texts?_here there, texts?_eq, there, placeAt_of_texts? alive, ite_self]
    split
    · rfl
    · next different => rw [if_neg fun same => different (entity_ext same.symm there)]
  · rw [(destroy_replaces alive).texts?_elsewhere there,
      if_neg fun same : other = entity => there (congrArg indexOf same)]

/-- Handles that were used stay so when an entity is destroyed. -/
theorem destroy_used (other : Entity) : (store.destroy entity).Used other ↔ store.Used other := by
  by_cases there : indexOf other = indexOf entity
  · rw [(destroy_replaces alive).used_here there, Used, there, placeAt_of_texts? alive]
    simp only [Option.isSome_none, Option.isSome_some, and_false, and_true, or_false, Bool.false_eq_true]
    omega
  · exact (destroy_replaces alive).used_elsewhere there

/-- A store stays in order when an entity is destroyed. -/
theorem destroy_orderly (orderly : store.Orderly) : (store.destroy entity).Orderly := by
  have replaces := destroy_replaces alive
  have taken : indexOf entity ∉ store.free := by
    intro free
    have vacant := ((orderly.vacant _).mp free).2
    rw [placeAt_of_texts? alive] at vacant
    exact nomatch vacant
  refine ⟨List.nodup_cons.mpr ⟨taken, orderly.distinct⟩, fun index => ?_,
    replaces.counted orderly.counted (Nat.le_add_left 1 _)⟩
  have length : (store.destroy entity).places.length = store.places.length := List.length_set
  have free : (store.destroy entity).free = indexOf entity :: store.free := rfl
  rw [length, free, List.mem_cons]
  by_cases there : index = indexOf entity
  · rw [there, replaces.here]
    exact ⟨fun _ => ⟨indexOf_lt alive, rfl⟩, fun _ => .inl rfl⟩
  · rw [replaces.elsewhere index there, ← orderly.vacant index]
    exact ⟨fun either => either.resolve_left there, .inr⟩

variable (later : Texts)

/-- Writing texts replaces them in their place. -/
theorem setTexts_replaces :
    Replaces store (store.setTexts entity later) (indexOf entity) ⟨generationOf entity, some later⟩ :=
  replaces_set (indexOf_lt alive)

/-- Writing texts only grows a store. -/
theorem setTexts_grows : Grows store (store.setTexts entity later) := by
  have kept := congrArg Place.generation (placeAt_of_texts? alive)
  exact set_grows (Nat.le_of_eq kept)

/-- Writing texts changes one entity. -/
theorem setTexts_texts? (other : Entity) :
    (store.setTexts entity later).texts? other = if other = entity then some later else store.texts? other := by
  by_cases there : indexOf other = indexOf entity
  · rw [(setTexts_replaces alive later).texts?_here there, texts?_eq, there, placeAt_of_texts? alive]
    by_cases same : other = entity
    · rw [if_pos (congrArg generationOf same.symm), if_pos same]
    · have different : ¬ generationOf entity = generationOf other := fun equal => same (entity_ext equal.symm there)
      rw [if_neg different, if_neg same, if_neg different]
  · rw [(setTexts_replaces alive later).texts?_elsewhere there,
      if_neg fun same : other = entity => there (congrArg indexOf same)]

/-- Writing texts uses no handle. -/
theorem setTexts_used (other : Entity) : (store.setTexts entity later).Used other ↔ store.Used other := by
  by_cases there : indexOf other = indexOf entity
  · rw [(setTexts_replaces alive later).used_here there, Used, there, placeAt_of_texts? alive]
    rfl
  · exact (setTexts_replaces alive later).used_elsewhere there

/-- A store stays in order when texts are written. -/
theorem setTexts_orderly (orderly : store.Orderly) : (store.setTexts entity later).Orderly := by
  have replaces := setTexts_replaces alive later
  have begun := orderly.counted (indexOf entity)
  have vacant := orderly.vacant (indexOf entity)
  rw [placeAt_of_texts? alive] at begun vacant
  refine ⟨orderly.distinct, fun index => ?_, replaces.counted orderly.counted begun⟩
  have length : (store.setTexts entity later).places.length = store.places.length := List.length_set
  have free : (store.setTexts entity later).free = store.free := rfl
  rw [length, free]
  by_cases there : index = indexOf entity
  · rw [there, replaces.here, vacant]
    exact ⟨fun both => (nomatch both.2), fun both => (nomatch both.2)⟩
  · rw [replaces.elsewhere index there, orderly.vacant index]

end Change

section Alive

/-- A place holds a living entity under its own handle. -/
theorem aliveAt_eq_some {place : Place} {index : Nat} (bounded : store.Bounded)
    (among : (place, index) ∈ store.places.zipIdx) (entity : Entity) :
    aliveAt place index = some entity ↔ indexOf entity = index ∧ store.isAlive entity := by
  have atIndex : store.places[index]? = some place := List.mem_zipIdx_iff_getElem?.mp among
  have held := placeAt_of_getElem? atIndex
  have young := bounded.young_at index
  have inside := Nat.lt_of_lt_of_le (List.getElem?_eq_some_iff.mp atIndex).1 bounded.places
  rw [held] at young
  unfold aliveAt isAlive
  constructor
  · intro shown
    split at shown
    · next texts =>
        cases shown
        have atHandle := indexOf_entityOf young inside
        refine ⟨atHandle, ?_⟩
        rw [texts?_eq, atHandle, held, generationOf_entityOf young inside, if_pos rfl]
        exact texts
    · exact nomatch shown
  · rintro ⟨rfl, living⟩
    obtain ⟨texts, living⟩ := Option.isSome_iff_exists.mp living
    rw [placeAt_of_texts? living] at held
    rw [← held]
    exact congrArg some (entityOf_generationOf entity)

/-- Listed are exactly the living. -/
theorem mem_alive (bounded : store.Bounded) (entity : Entity) : entity ∈ store.alive ↔ store.isAlive entity := by
  unfold alive
  rw [List.mem_filterMap]
  constructor
  · rintro ⟨⟨place, index⟩, among, shown⟩
    exact ((aliveAt_eq_some bounded among entity).mp shown).2
  · intro living
    obtain ⟨texts, shown⟩ := Option.isSome_iff_exists.mp living
    have among : (store.placeAt (indexOf entity), indexOf entity) ∈ store.places.zipIdx :=
      List.mem_zipIdx_iff_getElem?.mpr (getElem?_placeAt (indexOf_lt shown))
    exact ⟨_, among, (aliveAt_eq_some bounded among entity).mpr ⟨rfl, living⟩⟩

/-- Different places show different handles. -/
theorem alive_nodup (bounded : store.Bounded) : store.alive.Nodup := by
  have ordered : store.places.zipIdx.Pairwise fun left right => left.2 < right.2 := by
    rw [← List.pairwise_map (f := Prod.snd) (R := (· < ·)), List.zipIdx_map_snd]
    exact List.pairwise_lt_range' 1
  unfold alive List.Nodup
  rw [List.pairwise_filterMap]
  refine ordered.imp_of_mem ?_
  rintro ⟨place, index⟩ ⟨other, position⟩ among amongToo before entity shown entity' shown' rfl
  have first := ((aliveAt_eq_some bounded among entity).mp shown).1
  have second := ((aliveAt_eq_some bounded amongToo entity).mp shown').1
  exact Nat.ne_of_lt before (first.symm.trans second)

/-- The living are listed in ascending order, and a cap cuts the list. -/
theorem live_ascends (bounded : store.Bounded) :
    ∃ ids : List Entity, ids.Pairwise (fun left right => left.bits < right.bits) ∧
      (∀ entity, entity ∈ ids ↔ store.isAlive entity) ∧ store.count = ids.length ∧
      ∀ cap, store.live cap = ids.take cap := by
  let sorted := store.alive.mergeSort fun left right => left.bits ≤ right.bits
  have same : sorted.Perm store.alive := List.mergeSort_perm _ _
  have rising : sorted.Pairwise fun left right => left.bits ≤ right.bits := by
    have sorts := @List.pairwise_mergeSort _ (fun left right : Entity => decide (left.bits ≤ right.bits))
      (fun first second third early late => decide_eq_true
        (UInt64.le_trans (of_decide_eq_true early) (of_decide_eq_true late)))
      (fun first second => by
        rw [Bool.or_eq_true, decide_eq_true_eq, decide_eq_true_eq]
        exact UInt64.le_total first.bits second.bits) store.alive
    exact sorts.imp of_decide_eq_true
  refine ⟨sorted, ?_, fun entity => same.mem_iff.trans (mem_alive bounded entity), same.length_eq.symm, fun _ => rfl⟩
  have distinct : sorted.Nodup := same.nodup_iff.mpr (alive_nodup bounded)
  refine (rising.and distinct).imp fun both => ?_
  exact UInt64.lt_of_le_of_ne both.1 fun equal => both.2 (congrArg Entity.mk equal)

end Alive

end EntityStore

end ScriptHost
