/-
This file states what a whole pass of the binder comes to, and that a second pass changes nothing.
-/
import ScriptHost.Proofs.Binding.Attaching
import ScriptHost.Proofs.Binding.Pruning

namespace ScriptHost.Session.Binding

open World (registryOf)

namespace View

/-- Entities past the cap may have been left out. -/
def truncates (view : View) (entities : List Entity) : Bool :=
  view.binder.cap ≤ entities.length

/-- A pass takes a binding away if it has seen all entities and this one is not among them. -/
def keeps (view : View) (entities : List Entity) (pair : Entity × String) : Bool :=
  view.truncates entities || entities.contains pair.1

/-- The report of a pass over these entities, where these pairs are declared. -/
def report (view : View) (entities : List Entity) (pairs : List (Entity × String)) : BindReport :=
  { view.tally entities.length (view.truncates entities) pairs with
    pruned := (view.bindings.filter fun pair => !view.keeps entities pair).length }

end View

/-- The exact effect of a pass over these entities, where these pairs are declared. -/
structure Passed (first : View) (entities : List Entity) (pairs : List (Entity × String))
    (report : BindReport) (seen : View) : Prop where
  bindings : seen.bindings = first.bindings.filter (first.keeps entities) ++ first.fresh pairs
  systems : seen.systems = first.systems
  asked : seen.asked = (first.requests pairs).reverse ++ first.asked
  within : seen.Within
  frame : seen =
    { first with receivers := seen.receivers, registered := seen.registered, asked := seen.asked }
  reported : report = first.report entities pairs
  sum : report.attached + report.alreadyBound + report.unresolved.length = pairs.length

variable {world : World} {host : Nat} {call : Caller} {first seen : View} {entities : List Entity}
  {pairs : List (Entity × String)} {state : Pass}

/-- Nothing is pruned when the cap is reached. -/
theorem Progress.truncated (truncates : first.truncates entities = true)
    (progress : Progress first entities.length (first.truncates entities) pairs state seen) :
    Passed first entities pairs state.report seen where
  bindings := by
    rw [progress.bindings, List.filter_eq_self.mpr]
    intro pair _
    rw [View.keeps, truncates, Bool.true_or]
  systems := progress.systems
  asked := progress.asked
  within := progress.within
  frame := progress.frame
  reported := by
    have nothing : (first.bindings.filter fun pair => !first.keeps entities pair) = [] := by
      apply List.filter_eq_nil_iff.mpr
      intro pair _
      simp [View.keeps, truncates]
    rw [progress.report, View.report, nothing]
    rfl
  sum := by
    rw [progress.report]
    exact first.tally_sum entities.length (first.truncates entities) pairs

/-- The bindings of the entities that were not seen are pruned, and new bindings are not among them. -/
theorem Progress.pruned (whole : first.truncates entities = false) (wants : ∀ pair ∈ pairs, pair.1 ∈ entities)
    (progress : Progress first entities.length (first.truncates entities) pairs state seen) {pruned : Nat}
    (counted : pruned + (seen.without (orphans state.bound entities)).bindings.length =
      seen.bindings.length) :
    Passed first entities pairs { state.report with pruned }
      (seen.without (orphans state.bound entities)) := by
  have kept : ∀ pair ∈ seen.bindings,
      (!(orphans state.bound entities).contains pair.1) = first.keeps entities pair := by
    intro pair member
    have bound : pair.1 ∈ state.bound.map Prod.fst :=
      List.mem_map.mpr ⟨pair, (progress.bound pair).mpr member, rfl⟩
    rw [View.keeps, whole, Bool.false_or]
    by_cases alive : pair.1 ∈ entities
    · have spared : pair.1 ∉ orphans state.bound entities := fun orphan => (mem_orphans.mp orphan).2 alive
      simp [alive, spared]
    · have orphan : pair.1 ∈ orphans state.bound entities := mem_orphans.mpr ⟨bound, alive⟩
      simp [alive, orphan]
  have stays : (first.fresh pairs).filter (first.keeps entities) = first.fresh pairs := by
    apply List.filter_eq_self.mpr
    intro pair member
    have alive := wants pair (View.mem_fresh.mp member).1.1
    simp [View.keeps, alive]
  have bindings : (seen.without (orphans state.bound entities)).bindings =
      first.bindings.filter (first.keeps entities) ++ first.fresh pairs := by
    rw [View.without_bindings, List.filter_congr kept, progress.bindings, List.filter_append, stays]
  have count : pruned = (first.bindings.filter fun pair => !first.keeps entities pair).length := by
    rw [bindings, progress.bindings, List.length_append, List.length_append] at counted
    have split := List.length_eq_length_filter_add (l := first.bindings) (first.keeps entities)
    omega
  exact
    { bindings
      systems := View.without_systems.trans progress.systems
      asked := progress.asked
      within := View.without_within progress.within
      frame := by
        rw [progress.frame]
        rfl
      reported := by
        rw [progress.report, count]
        rfl
      sum := by
        rw [progress.report]
        exact first.tally_sum entities.length (first.truncates entities) pairs }

/-- A pass reports its effect, or the engine panics while it tells what an entity declares. -/
def Concludes (host : Nat) (first : View) (entities : List Entity) :
    Except String (List (Entity × String)) → Except Raised BindReport → World → Prop
  | .ok pairs, result, after => ∃ report, result = .ok report ∧
      Passed first entities pairs report (view after host)
  | .error message, result, after =>
      result = .error (.panicked message) ∧ (view after host).binder = first.binder ∧
        (view after host).present = first.present

/-- What has been attached during the pass belongs to entities that are alive. -/
theorem Progress.disposable {done : List (Entity × String)} {scanned : Nat} {truncated : Bool}
    (wants : ∀ pair ∈ done, pair.1 ∈ entities) (disposable : Disposable call host first entities)
    (progress : Progress first scanned truncated done state seen) : Disposable call host seen entities := by
  intro id member pair told apart
  rcases progress.origin id member with ⟨old, same⟩ | ⟨other, inside, binds⟩
  · rw [View.trait?, same] at told
    unfold Finishes
    rw [same]
    exact disposable id old pair told apart
  · obtain rfl := Option.some.inj (told.symm.trans binds)
    exact absurd (wants pair inside) apart

/-- A pass over distinct entities has its exact effect. -/
theorem pass_concludes (seen : view world host = first) (present : first.present = true)
    (unlocked : first.locked = false) (within : first.Within)
    (tame : ∀ entry ∈ first.chain, Tame call host entry.2)
    (disposable : first.truncates entities = false → Disposable call host first entities)
    (distinct : entities.Nodup) :
    (pass call host first.binder.factories first.binder.cap entities).Ends world
      (Concludes host first entities (wanted first.engine entities)) := by
  have bound : (world.registryOf host).bindings = first.bindings := by
    rw [← seen, view_bindings]
  have progress : Progress first entities.length (first.truncates entities) []
      ⟨first.bindings, ⟨entities.length, 0, 0, [], 0, first.truncates entities⟩⟩ (view world host) := by
    rw [seen]
    exact Progress.start first within entities.length (first.truncates entities)
  have free : (world.registryOf host).locked = false := by
    rw [← seen] at unlocked
    exact unlocked
  unfold pass
  rw [Run.ends_bind, Run.ends_registry free, Run.followed_ok, bound]
  dsimp only
  rw [Run.ends_bind]
  refine (bindEntities_covers progress present unlocked tame distinct (by simp)).mono ?_
  intro result after covers
  cases wants : wanted first.engine entities with
  | error message =>
      rw [wants] at covers
      obtain ⟨rfl, still⟩ := covers
      exact ⟨rfl, still⟩
  | ok pairs =>
      rw [wants] at covers
      obtain ⟨pass, rfl, progress⟩ := covers
      rw [List.nil_append] at progress
      rw [Run.followed_ok]
      have alive : ∀ pair ∈ pairs, pair.1 ∈ entities := fun pair member => wanted_mem wants member
      obtain ⟨present', -, -, -, -, locked⟩ := View.still_of_frame progress.frame
      cases truncates : first.truncates entities with
      | true =>
          have stops : first.binder.cap ≤ entities.length := of_decide_eq_true truncates
          rw [if_pos (decide_eq_true stops)]
          exact ⟨pass.report, rfl, progress.truncated truncates⟩
      | false =>
          have goes : ¬ first.binder.cap ≤ entities.length := of_decide_eq_false truncates
          rw [if_neg (by simpa using goes)]
          have gone : ∀ entity ∈ orphans pass.bound entities, entity ∉ entities :=
            fun entity orphan => (mem_orphans.mp orphan).2
          have pruned := prune_yields (present'.trans present) (locked.trans unlocked)
            (progress.disposable alive (disposable truncates)) gone 0
          refine pruned.ends fun removed last cleared => ?_
          obtain ⟨same, counted⟩ := cleared
          rw [Nat.zero_add, same] at counted
          have passed := progress.pruned truncates alive counted
          rw [← same] at passed
          exact ⟨_, rfl, passed⟩

/-- A pass sees of the busy mark nothing but the mark. -/
theorem yields_setBusy (present : (view world host).present = true) (busy : Bool) :
    Yields host world (setBusy host busy) fun _ seen => seen = (view world host).busy busy := by
  have inside := present_iff.mp present
  let changed : Host := { (world.hosts[host]?).getD .core with
    binder := { ((world.hosts[host]?).getD .core).binder with busy } }
  change view { world with hosts := world.hosts.set host changed } host = _
  simp [changed, view, View.busy, registryOf, inside, chainOf, look]

/-- A pass can begin. -/
structure Ready (first : View) : Prop where
  present : first.present = true
  idle : first.binder.busy = false
  unlocked : first.locked = false
  within : first.Within

/-- The binder is busy during a pass, and a pass does not depend on that. -/
theorem Passed.free {report : BindReport} (ready : Ready first)
    (passed : Passed (first.busy true) entities pairs report seen) :
    Passed first entities pairs report (seen.busy false) where
  bindings := passed.bindings
  systems := passed.systems
  asked := passed.asked
  within := passed.within
  frame := by
    rw [passed.frame]
    have same : ({ first.binder with busy := false } : Binder) = first.binder := by
      rw [← ready.idle]
    exact congrArg (fun binder => { first with
      binder, receivers := seen.receivers, registered := seen.registered, asked := seen.asked }) same
  reported := passed.reported
  sum := passed.sum

/-- What comes of binding all: the report of the pass, or the panic of the engine. -/
def Binds (host : Nat) (first : View) (entities : List Entity) :
    Except String (List (Entity × String)) → Except Raised (Except NativeError BindReport) → World → Prop
  | .ok pairs, result, after => ∃ report, result = .ok (.ok report) ∧
      Passed first entities pairs report (view after host)
  | .error message, result, _ => result = .error (.panicked message)

/-- The entities are listed first, and nothing happens when that fails. -/
theorem bindAll_ends (idle : (view world host).binder.busy = false)
    (post : Except Raised (Except NativeError BindReport) → World → Prop) :
    (bindAll call host).Ends world post ↔
      match world.engine.liveEntities (view world host).binder.cap with
      | .error error => post (.ok (.error error)) world
      | .ok entities => Run.Ends (do
          setBusy host true
          return .ok (← Run.afterwards (pass call host (view world host).binder.factories
            (view world host).binder.cap entities) (setBusy host false))) world post := by
  unfold bindAll
  rw [Run.ends_bind, Run.ends_host, Run.followed_ok]
  dsimp only
  change ((world.hosts[host]?).getD .core).binder.busy = false at idle
  rw [idle]
  simp only [Bool.false_eq_true, ↓reduceIte]
  rw [Run.ends_bind, Run.ends_get, Run.followed_ok]
  change Run.Ends (match world.engine.liveEntities (view world host).binder.cap with
    | .error error => _
    | .ok entities => _) world post ↔ _
  cases world.engine.liveEntities (view world host).binder.cap with
  | error error => exact Iff.rfl
  | ok entities => exact Iff.rfl

/-- Whatever a run ends with, the busy mark is set behind it. -/
theorem afterwards_run {Value : Type} (body : Run Value) (host : Nat) (busy : Bool) (world : World) :
    (Run.afterwards body (setBusy host busy)).run.run world =
      ((body.run.run world).1, ((setBusy host busy).run.run (body.run.run world).2).2) := by
  rw [Run.afterwards_eq, Stateful.run_tryCatch, Stateful.run_bind]
  rcases body.run.run world with ⟨raised | value, after⟩ <;> rfl

/-- The binder is free again however the body ends. -/
theorem ends_freed {Value : Type} {body : Run Value} {post : Except Raised Value → World → Prop}
    (ends : body.Ends world fun result after => (view after host).present = true ∧
      ∀ last, view last host = (view after host).busy false → post result last) :
    (Run.afterwards body (setBusy host false)).Ends world post := by
  have freed : view ((setBusy host false).run.run (body.run.run world).2).2 host =
      (view (body.run.run world).2 host).busy false := yields_setBusy ends.1 false
  unfold Run.Ends
  rw [afterwards_run]
  exact ends.2 _ freed

/-- The pass of a binder that is ready runs to its end. -/
theorem bindAll_binds (ready : Ready (view world host))
    (tame : ∀ entry ∈ (view world host).chain, Tame call host entry.2)
    (lists : world.engine.liveEntities (view world host).binder.cap = .ok entities)
    (disposable : (view world host).truncates entities = false →
      Disposable call host (view world host) entities)
    (distinct : entities.Nodup) :
    (bindAll call host).Ends world
      (Binds host (view world host) entities (wanted world.engine entities)) := by
  rw [bindAll_ends ready.idle, lists]
  refine (yields_setBusy ready.present true).ends fun _ begun busy => ?_
  rw [Run.ends_bind]
  apply ends_freed
  apply (pass_concludes busy ready.present ready.unlocked ready.within tame disposable distinct).mono
  intro result after concludes
  change Concludes host _ entities (wanted world.engine entities) result after at concludes
  cases wants : wanted world.engine entities with
  | error message =>
      rw [wants] at concludes
      obtain ⟨rfl, -, present⟩ := concludes
      exact ⟨present.trans ready.present, fun last _ => rfl⟩
  | ok pairs =>
      rw [wants] at concludes
      obtain ⟨report, rfl, passed⟩ := concludes
      have present := (congrArg View.present passed.frame).trans ready.present
      refine ⟨present, fun last freed => ⟨report, rfl, ?_⟩⟩
      change Passed _ entities pairs report (view last host)
      rw [freed]
      exact passed.free ready

end ScriptHost.Session.Binding
