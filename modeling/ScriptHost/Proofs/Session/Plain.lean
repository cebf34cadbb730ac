/-
This file singles out the runs that neither call hooks nor touch what keeps hooks.
-/
import Mathlib.Data.List.Forall2
import ScriptHost.Proofs.Session.Registries
import ScriptHost.Proofs.Session.Together

namespace ScriptHost

section Pointwise

variable {α β : Type} {related : α → β → Prop} {left : List α} {right : List β}

/-- Related values may be set in the same place of related lists. -/
theorem Forall₂.set (alike : List.Forall₂ related left right) {value : α} {other : β}
    (same : related value other) (index : Nat) :
    List.Forall₂ related (left.set index value) (right.set index other) := by
  induction alike generalizing index with
  | nil => exact .nil
  | cons first rest ih =>
      cases index with
      | zero => exact .cons same rest
      | succ index => exact .cons first (ih index)

/-- Related lists have related values in the same place. -/
theorem Forall₂.getElem? (alike : List.Forall₂ related left right) (index : Nat) :
    Option.Rel related left[index]? right[index]? := by
  induction alike generalizing index with
  | nil => exact .none
  | cons first rest ih =>
      cases index with
      | zero => exact .some first
      | succ index => exact ih index

/-- Related lists with related defaults have related values everywhere. -/
theorem Forall₂.getD (alike : List.Forall₂ related left right) {value : α} {other : β}
    (same : related value other) (index : Nat) :
    related (left[index]?.getD value) (right[index]?.getD other) := by
  have found := Forall₂.getElem? alike index
  revert found
  cases left[index]? <;> cases right[index]? <;> intro found <;> cases found
  · exact same
  · assumption

end Pointwise

namespace Session

/-- Such runs see the log and the runtime of a host. -/
structure Host.Sees (host other : Host) : Prop where
  log : host.log = other.log
  runtime : host.runtime = other.runtime
  freed : host.freed = other.freed

/-- They do not touch the rest, and a runtime keeps its state. -/
structure Host.Spares (host after : Host) : Prop where
  registry : after.registry = host.registry
  source : after.source = host.source
  binder : after.binder = host.binder
  users : after.users = host.users
  named : after.named = host.named
  freed : after.freed = host.freed
  state : after.runtime.map Runtime.state = host.runtime.map Runtime.state
  listener : after.runtime.map Runtime.listener = host.runtime.map Runtime.listener

namespace World

structure Sees (world other : World) : Prop where
  engine : world.engine = other.engine
  draws : world.draws = other.draws
  tree : world.tree = other.tree
  claimed : world.claimed = other.claimed
  threads : world.threads = other.threads
  names : world.names = other.names
  hosts : List.Forall₂ Host.Sees world.hosts other.hosts

structure Spares (world after : World) : Prop where
  bridge : after.bridge = world.bridge
  claimed : after.claimed = world.claimed
  factories : after.factories = world.factories
  uses : after.uses = world.uses
  named : after.names.hosts = world.names.hosts
  hosts : List.Forall₂ Host.Spares world.hosts after.hosts
  journal : ∃ records : List TraceRecord, after.journal = records.map .reported ++ world.journal

end World

/-- A host sees the same as itself. -/
theorem Host.Sees.refl (host : Host) : host.Sees host := ⟨rfl, rfl, rfl⟩

/-- A host is spared if it stays. -/
theorem Host.Spares.refl (host : Host) : host.Spares host := ⟨rfl, rfl, rfl, rfl, rfl, rfl, rfl, rfl⟩

/-- Hosts that are spared twice are spared. -/
theorem Host.Spares.trans {first second third : Host} (left : first.Spares second)
    (right : second.Spares third) : first.Spares third where
  registry := right.registry.trans left.registry
  source := right.source.trans left.source
  binder := right.binder.trans left.binder
  users := right.users.trans left.users
  named := right.named.trans left.named
  freed := right.freed.trans left.freed
  state := right.state.trans left.state
  listener := right.listener.trans left.listener

namespace World

/-- A world sees the same as itself. -/
theorem Sees.refl (world : World) : world.Sees world :=
  ⟨rfl, rfl, rfl, rfl, rfl, rfl, List.forall₂_same.mpr fun host _ => .refl host⟩

/-- A world is spared if it stays. -/
theorem Spares.refl (world : World) : world.Spares world :=
  ⟨rfl, rfl, rfl, rfl, rfl, List.forall₂_same.mpr fun host _ => .refl host, [], rfl⟩

/-- Hosts are spared one by one. -/
theorem spares_trans {first second third : List Host} (left : List.Forall₂ Host.Spares first second)
    (right : List.Forall₂ Host.Spares second third) : List.Forall₂ Host.Spares first third := by
  induction left generalizing third with
  | nil =>
      cases right
      exact .nil
  | cons spares rest ih =>
      cases right with
      | cons spares' rest' => exact .cons (spares.trans spares') (ih rest')

/-- Worlds that are spared twice are spared. -/
theorem Spares.trans {first second third : World} (left : first.Spares second)
    (right : second.Spares third) : first.Spares third where
  bridge := right.bridge.trans left.bridge
  claimed := right.claimed.trans left.claimed
  factories := right.factories.trans left.factories
  uses := right.uses.trans left.uses
  named := right.named.trans left.named
  hosts := spares_trans left.hosts right.hosts
  journal := by
    obtain ⟨earlier, same⟩ := left.journal
    obtain ⟨later, same'⟩ := right.journal
    exact ⟨later ++ earlier, by rw [same', same, List.map_append, List.append_assoc]⟩

/-- Only the host that changes has to be looked at. -/
theorem spares_set {hosts : List Host} {id : Nat} {host : Host}
    (spares : ((hosts[id]?).getD .core).Spares host) :
    List.Forall₂ Host.Spares hosts (hosts.set id host) := by
  rw [List.forall₂_iff_get]
  refine ⟨by simp, fun index inside inside' => ?_⟩
  by_cases here : id = index
  · subst here
    rw [List.getElem?_eq_getElem inside] at spares
    simpa using spares
  · simpa [here] using Host.Spares.refl hosts[index]

/-- Worlds that see the same have hosts that do. -/
theorem Sees.host {world other : World} (sees : world.Sees other) (id : Nat) :
    ((world.hosts[id]?).getD .core).Sees ((other.hosts[id]?).getD .core) :=
  Forall₂.getD sees.hosts (.refl _) id

end World

namespace Run

variable {α β : Type}

/-- What such a run does depends on what it sees, and it spares everything else. -/
def Plain (body : Run α) : Prop :=
  ∀ world other, world.Sees other →
    (body.run.run world).1 = (body.run.run other).1 ∧
      (body.run.run world).2.Sees (body.run.run other).2 ∧ world.Spares (body.run.run world).2

/-- A plain run spares the world. -/
theorem Plain.spares {body : Run α} (plain : Plain body) (world : World) :
    world.Spares (body.run.run world).2 :=
  (plain world world (.refl world)).2.2

/-- A run that only returns is plain. -/
theorem plain_pure (value : α) : Plain (pure value) := fun world _ sees => ⟨rfl, sees, .refl world⟩

/-- A run that only throws is plain. -/
theorem plain_throw (raised : Raised) : Plain (throw raised : Run α) :=
  fun world _ sees => ⟨rfl, sees, .refl world⟩

/-- Two plain runs are plain together. -/
theorem Plain.bind {body : Run α} {next : α → Run β} (first : Plain body)
    (rest : ∀ value, Plain (next value)) : Plain (body >>= next) := by
  intro world other sees
  obtain ⟨same, after, spares⟩ := first world other sees
  rw [Stateful.run_bind, Stateful.run_bind]
  revert same after spares
  rcases body.run.run world with ⟨result, left⟩
  rcases body.run.run other with ⟨result', right⟩
  rintro rfl after spares
  cases result with
  | error raised => exact ⟨rfl, after, spares⟩
  | ok value =>
      obtain ⟨same, later, spares'⟩ := rest value left right after
      exact ⟨same, later, spares.trans spares'⟩

/-- A run may look at what it sees. -/
theorem plain_get {next : World → Run α} (same : ∀ world other, World.Sees world other → next world = next other)
    (rest : ∀ world, Plain (next world)) : Plain (get >>= next) := by
  intro world other sees
  have each := rest world world other sees
  rw [Stateful.run_get, Stateful.run_get, ← same world other sees]
  exact each

/-- Reading a host changes nothing. -/
theorem host_run (id : Nat) (next : Host → Run α) (world : World) :
    (Run.host id >>= next).run.run world =
      (next ((world.hosts[id]?).getD .core)).run.run world := rfl

/-- Whoever reads of a host what is seen may go on plainly. -/
theorem plain_host {id : Nat} {next : Host → Run α}
    (same : ∀ host other, Host.Sees host other → next host = next other)
    (rest : ∀ host, Plain (next host)) : Plain (Run.host id >>= next) := by
  intro world other sees
  have each := rest ((world.hosts[id]?).getD .core) world other sees
  rw [host_run, host_run, ← same _ _ (sees.host id)]
  exact each

/-- A change that spares the world is plain. -/
theorem plain_modify {change : World → World}
    (sees : ∀ world other, World.Sees world other → (change world).Sees (change other))
    (spares : ∀ world, World.Spares world (change world)) : Plain (modify change) :=
  fun world other same => ⟨rfl, sees world other same, spares world⟩

/-- A change that spares the host is plain. -/
theorem plain_modifyHost (id : Nat) {change : Host → Host}
    (sees : ∀ host other, Host.Sees host other → (change host).Sees (change other))
    (spares : ∀ host, Host.Spares host (change host)) : Plain (modifyHost id change) := by
  intro world other same
  refine ⟨rfl, { same with hosts := ?_ }, { World.Spares.refl world with hosts := ?_ }⟩
  · exact Forall₂.set same.hosts (sees _ _ (same.host id)) id
  · exact World.spares_set (spares _)

/-- Reading a runtime is plain. -/
theorem plain_runtime? (id : Nat) : Plain (runtime? id) :=
  plain_host (fun _ _ sees => by rw [sees.runtime]) fun _ => plain_pure _

/-- A runtime may change plainly in all but its state and its listener. -/
theorem plain_modifyRuntime (id : Nat) {change : Runtime → Runtime}
    (state : ∀ runtime, (change runtime).state = runtime.state)
    (listener : ∀ runtime, (change runtime).listener = runtime.listener) :
    Plain (modifyRuntime id change) := by
  apply plain_modifyHost
  · intro host other sees
    exact ⟨sees.log, by rw [sees.runtime], sees.freed⟩
  · intro host
    refine { Host.Spares.refl host with state := ?_, listener := ?_ }
    · cases host.runtime <;> simp [state]
    · cases host.runtime <;> simp [listener]

/-- Reports are plain. -/
theorem plain_reportAll (records : List TraceRecord) : Plain (reportAll records) := by
  apply plain_modify
  · exact fun world other sees => { sees with }
  · intro world
    refine { World.Spares.refl world with journal := ⟨records.reverse, ?_⟩ }
    rw [List.map_reverse]

/-- A report is plain. -/
theorem plain_report (record : TraceRecord) : Plain (report record) :=
  plain_modify (fun _ _ sees => { sees with })
    fun world => { World.Spares.refl world with journal := ⟨[record], rfl⟩ }

/-- Running a script is plain. -/
theorem plain_outside (id : Nat) (act : Script.Outside → α × Script.Outside) :
    Plain (outside id act) := by
  intro world other sees
  have left : ∀ world : World, (outside id act).run.run world =
      (.ok (act ⟨world.engine, world.draws, ((world.hosts[id]?).getD .core).log, []⟩).1,
        world.leave id (act ⟨world.engine, world.draws, ((world.hosts[id]?).getD .core).log, []⟩).2) := fun _ => rfl
  have host := sees.host id
  rw [left, left, sees.engine, sees.draws, host.log]
  generalize act ⟨other.engine, other.draws, ((other.hosts[id]?).getD .core).log, []⟩ = told
  have logged : Host.Sees { (world.hosts[id]?).getD .core with log := told.2.log }
      { (other.hosts[id]?).getD .core with log := told.2.log } := ⟨rfl, host.runtime, host.freed⟩
  refine ⟨rfl, ?_, ?_⟩
  · exact { sees with engine := rfl, draws := rfl, hosts := Forall₂.set sees.hosts logged id }
  · exact { World.Spares.refl world with
      hosts := World.spares_set { Host.Spares.refl _ with }
      journal := ⟨told.2.records.reverse, by rw [List.map_reverse]; rfl⟩ }

/-- Changes of the engine are plain. -/
theorem plain_modifyEngine (change : Engine → Engine) : Plain (modifyEngine change) :=
  plain_modify (fun _ _ sees => { sees with engine := congrArg change sees.engine })
    fun world => { World.Spares.refl world with }

/-- Changes of files are plain. -/
theorem plain_setTree (tree : File.Tree) : Plain (setTree tree) :=
  plain_modify (fun _ _ sees => { sees with tree := rfl }) fun world => { World.Spares.refl world with }

/-- Names may change plainly, but for those of hosts. -/
theorem plain_modifyNames {change : Names → Names} (hosts : ∀ names, (change names).hosts = names.hosts) :
    Plain (modifyNames change) :=
  plain_modify (fun _ _ sees => { sees with names := congrArg change sees.names })
    fun world => { World.Spares.refl world with named := hosts world.names }

end Run

end Session

end ScriptHost
