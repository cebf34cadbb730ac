/-
This file says which root of a table decides about a path. It is the deepest one above the path, no other
stands as deep, and the order in which the roots entered makes no difference.
-/
import ScriptHost.Proofs.File.Roots

namespace ScriptHost.File

/-- Two roots of one path are the same where they have as many components. -/
theorem Pathname.same_of_startsWith {path root other : Pathname} (above : path.startsWith root = true)
    (above' : path.startsWith other = true) (level : root.components.length = other.components.length) :
    root.same other = true := by
  rw [startsWith_iff] at above above'
  exact same_iff.mpr ((List.prefix_of_prefix_length_le above above' (Nat.le_of_eq level)).eq_of_length level)

namespace RootTable

variable {table : RootTable} {tree : Tree} {path root : Pathname} {kind : RootKind}
  {entry other : Pathname × RootKind} {entries : List (Pathname × RootKind)}

/-- The entry stands above the path, and all others above it are less deep. -/
structure Deepest (table : RootTable) (path : Pathname) (entry : Pathname × RootKind) : Prop where
  entered : entry ∈ table.roots
  above : path.startsWith entry.1 = true
  others : ∀ other ∈ table.roots, path.startsWith other.1 = true → other ≠ entry → depth other.1 < depth entry.1

/-- At most one root of a table is the deepest above a path. -/
theorem Deepest.unique (deepest : table.Deepest path entry) (deepest' : table.Deepest path other) :
    entry = other := by
  by_contra apart
  have lower := deepest.others other deepest'.entered deepest'.above (Ne.symm apart)
  have higher := deepest'.others entry deepest.entered deepest.above apart
  omega

/-- Which entries there are decides; where they stand in the table does not. -/
theorem Deepest.congr {second : RootTable} (same : ∀ entry, entry ∈ second.roots ↔ entry ∈ table.roots) :
    second.Deepest path entry ↔ table.Deepest path entry := by
  constructor
  · rintro ⟨entered, above, others⟩
    exact ⟨(same entry).mp entered, above, fun other member => others other ((same other).mpr member)⟩
  · rintro ⟨entered, above, others⟩
    exact ⟨(same entry).mpr entered, above, fun other member => others other ((same other).mp member)⟩

/-- Distinct roots are spelled in different ways. -/
theorem Distinct.eq_of_same (distinct : table.Distinct) (member : entry ∈ table.roots)
    (member' : other ∈ table.roots) (same : entry.1.same other.1 = true) : entry = other := by
  have found := distinct.find member
  have first : table.roots.find? (fun third => third.1.same other.1) = some entry := by
    rw [← found]
    congr 1
    funext third
    rw [Bool.eq_iff_iff, Pathname.same_iff, Pathname.same_iff, Pathname.same_iff.mp same]
  exact Option.some.inj (first.symm.trans (distinct.find member'))

/-- The kind of a path is that of its deepest root. -/
theorem Distinct.deepest (distinct : table.Distinct) (classified : table.classifyNormal path = some kind) :
    ∃ root, table.Deepest path (root, kind) := by
  obtain ⟨root, member, above, bound⟩ := classifyNormal_deepest classified
  refine ⟨root, member, above, fun other member' above' apart => ?_⟩
  apply Nat.lt_of_le_of_ne (bound other member' above')
  intro level
  exact apart (distinct.eq_of_same member' member (Pathname.same_of_startsWith above' above level))

/-- A path has a kind exactly if a deepest root of this kind stands above it. -/
theorem Distinct.classifyNormal_iff (distinct : table.Distinct) :
    table.classifyNormal path = some kind ↔ ∃ root, table.Deepest path (root, kind) := by
  refine ⟨distinct.deepest, ?_⟩
  rintro ⟨root, deepest⟩
  cases classified : table.classifyNormal path with
  | none =>
      have clear := classifyNormal_eq_none.mp classified _ deepest.entered
      exact absurd deepest.above (by simp [clear])
  | some held =>
      obtain ⟨root', deepest'⟩ := distinct.deepest classified
      rw [(Prod.mk.inj (deepest.unique deepest')).2]

/-- Tables with the same entries answer alike. -/
theorem Distinct.classifyNormal_congr {second : RootTable} (distinct : table.Distinct)
    (distinct' : second.Distinct) (same : ∀ entry, entry ∈ second.roots ↔ entry ∈ table.roots) :
    second.classifyNormal path = table.classifyNormal path := by
  apply Option.ext
  intro kind
  rw [distinct.classifyNormal_iff, distinct'.classifyNormal_iff]
  simp only [Deepest.congr same]

/-- A table holds a root if one of its entries is the same. -/
theorem holds_iff : table.holds root = true ↔ ∃ entry ∈ table.roots, entry.1.same root = true :=
  List.any_eq_true

/-- What entering a root answers, and what it leaves. -/
structure Entered (table : RootTable) (root : Pathname) (kind : RootKind) (answer : RootTable × Bool) :
    Prop where
  refused : answer.2 = false ↔ ∃ entry ∈ table.roots, entry.1.same root = true
  kept : answer.2 = false → answer.1 = table
  added : answer.2 = true → answer.1.roots = table.roots ++ [(root, kind)]

/-- A root enters a table unless it is there already. -/
theorem insertNormal_entered (table : RootTable) (root : Pathname) (kind : RootKind) :
    table.Entered root kind (table.insertNormal root kind) := by
  rw [insertNormal]
  by_cases held : table.holds root = true
  · rw [if_pos held]
    exact ⟨iff_of_true rfl (holds_iff.mp held), fun _ => rfl, nofun⟩
  · rw [if_neg held]
    exact ⟨iff_of_false nofun (mt holds_iff.mpr held), nofun, fun _ => rfl⟩

/-- Roots that are all different enter as they come. -/
theorem fill_apart (apart : Distinct ⟨table.roots ++ entries⟩) :
    (table.fill entries).roots = table.roots ++ entries := by
  induction entries generalizing table with
  | nil => rw [fill, List.foldl_nil, List.append_nil]
  | cons entry rest ih =>
      have new : table.holds entry.1 = false := by
        rw [Bool.eq_false_iff]
        intro held
        obtain ⟨former, member, same⟩ := holds_iff.mp held
        have different := (List.pairwise_append.mp apart).2.2 former member entry List.mem_cons_self
        rw [same] at different
        cases different
      have step : table.insertNormal entry.1 entry.2 = (⟨table.roots ++ [entry]⟩, true) := by
        rw [insertNormal, new]
        rfl
      change ((table.insertNormal entry.1 entry.2).1.fill rest).roots = _
      rw [step, ih (by rwa [List.append_assoc]), List.append_assoc]
      rfl

/-- A root enters the table under its normal path in the files of that moment. -/
structure Entrance where
  tree : Tree
  root : Pathname
  kind : RootKind

def Entrance.normal (entrance : Entrance) : Pathname × RootKind :=
  (entrance.tree.normalize entrance.root, entrance.kind)

/-- The roots are inserted one after the other. -/
def gather (table : RootTable) (entrances : List Entrance) : RootTable :=
  entrances.foldl (fun table entrance => (table.insert entrance.tree entrance.root entrance.kind).1) table

/-- Roots are gathered by their normal paths. -/
theorem gather_eq_fill (table : RootTable) (entrances : List Entrance) :
    table.gather entrances = table.fill (entrances.map Entrance.normal) := by
  rw [gather, fill, List.foldl_map]
  rfl

/-- The roots of a table that was filled from nothing are distinct. -/
theorem gather_distinct (entrances : List Entrance) : (empty.gather entrances).Distinct := by
  rw [gather_eq_fill]
  exact distinct_empty.fill _

/-- Each root that was inserted is in the table, under the kind that came first. -/
theorem gather_find (entrances : List Entrance) (root : Pathname) :
    (empty.gather entrances).roots.find? (fun entry => entry.1.same root) =
      (entrances.map Entrance.normal).find? fun entry => entry.1.same root := by
  rw [gather_eq_fill, fill_find, empty, List.nil_append]

/-- No two of the roots have the same normal path. -/
def Apart (entrances : List Entrance) : Prop :=
  entrances.Pairwise fun entrance other => entrance.normal.1.same other.normal.1 = false

/-- Entrances that stand apart are distinct. -/
theorem Apart.distinct {entrances : List Entrance} (apart : Apart entrances) :
    Distinct ⟨entrances.map Entrance.normal⟩ :=
  List.pairwise_map.mpr apart

/-- Entrances that stand apart all enter. -/
theorem gather_apart {entrances : List Entrance} (apart : Apart entrances) :
    (empty.gather entrances).roots = entrances.map Entrance.normal := by
  rw [gather_eq_fill, fill_apart (apart.distinct : Distinct ⟨[] ++ _⟩), empty, List.nil_append]

/-- Entrances stand apart in any order. -/
theorem Apart.perm {entrances others : List Entrance} (apart : Apart entrances)
    (permuted : others.Perm entrances) : Apart others := by
  refine permuted.symm.pairwise apart ?_
  intro entrance other different
  rw [Bool.eq_false_iff, Ne, Pathname.same_iff] at different ⊢
  exact Ne.symm different

/-- The deepest root above a path decides, whatever came in between, and of roots that are all different
the order does not matter. -/
theorem classify_deepest (tree : Tree) (calls : List (Pathname × RootKind)) (path : Pathname) :
    let entrances := calls.map fun call => Entrance.mk tree call.1 call.2
    let table := empty.gather entrances
    table.Distinct ∧
      (∀ root kind, table.Entered (tree.normalize root) kind (table.insert tree root kind)) ∧
      (∀ root, table.roots.find? (fun entry => entry.1.same root) =
        (entrances.map Entrance.normal).find? fun entry => entry.1.same root) ∧
      (∀ kind, table.classify tree path = some kind ↔
        ∃ root, table.Deepest (tree.normalize path) (root, kind)) ∧
      (table.classify tree path = none ↔
        ∀ entry ∈ table.roots, (tree.normalize path).startsWith entry.1 = false) ∧
      (Apart entrances → ∀ others : List (Pathname × RootKind), others.Perm calls →
        (empty.gather (others.map fun call => Entrance.mk tree call.1 call.2)).classify tree path =
          table.classify tree path) := by
  intro entrances table
  have distinct : table.Distinct := gather_distinct entrances
  refine ⟨distinct, fun root kind => insertNormal_entered table _ kind, gather_find entrances,
    fun kind => distinct.classifyNormal_iff, classifyNormal_eq_none, ?_⟩
  intro apart others permuted
  have moved := permuted.map fun call : Pathname × RootKind => Entrance.mk tree call.1 call.2
  apply distinct.classifyNormal_congr (gather_distinct _)
  intro entry
  rw [gather_apart apart, gather_apart (apart.perm moved)]
  exact (moved.map Entrance.normal).mem_iff

/-- A root in another one, and a neighbour whose name goes on. -/
def neighbours : Tree where
  entries := [(["scripts"], .directory true), (["scripts", "quests"], .directory true),
    (["scripts2"], .directory true)]
  working := []

/-- Of two roots the lower one decides about what is below it, and a neighbour with a similar name does not. -/
theorem classify_deepest_neighbours :
    let calls : List (Pathname × RootKind) :=
      [(⟨"scripts"⟩, .scripts), (⟨"scripts/quests"⟩, .quests), (⟨"scripts2"⟩, .encounters)]
    let table := empty.gather (calls.map fun call => Entrance.mk neighbours call.1 call.2)
    Apart (calls.map fun call => Entrance.mk neighbours call.1 call.2) ∧ calls.reverse.Perm calls ∧
      (empty.gather (calls.reverse.map fun call => Entrance.mk neighbours call.1 call.2)).classify neighbours
        ⟨"scripts/quests/gone.rhai"⟩ = table.classify neighbours ⟨"scripts/quests/gone.rhai"⟩ ∧
      table.classify neighbours ⟨"scripts/quests/gone.rhai"⟩ = some .quests ∧
      table.classify neighbours ⟨"scripts2/a.rhai"⟩ = some .encounters := by
  intro calls table
  have apart : Apart (calls.map fun call => Entrance.mk neighbours call.1 call.2) := by
    unfold Apart
    decide +kernel
  refine ⟨apart, List.reverse_perm calls, ?_, by decide +kernel, by decide +kernel⟩
  exact (classify_deepest neighbours calls ⟨"scripts/quests/gone.rhai"⟩).2.2.2.2.2 apart calls.reverse
    (List.reverse_perm calls)

end RootTable

end ScriptHost.File
