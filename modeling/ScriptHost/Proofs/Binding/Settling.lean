/-
This file states the exact effect of binding all that entities declare, and that doing it again changes
nothing.
-/
import ScriptHost.Proofs.Binding.Looking
import ScriptHost.Proofs.Binding.Passes

namespace ScriptHost.Session.Binding

variable {world : World} {host : Nat} {call : Caller} {first seen last : View} {entities : List Entity}
  {pairs : List (Entity × String)} {report again : BindReport}

/-- A pass that follows at once attaches nothing and prunes nothing, and it asks for the unresolved pairs
alone. -/
structure Settled (first seen : View) (pairs : List (Entity × String)) (report again : BindReport)
    (last : View) : Prop where
  bindings : last.bindings = seen.bindings
  systems : last.systems = seen.systems
  asked : last.asked =
    ((first.unresolved pairs).flatMap fun pair => consulted pair.2 first.chain).reverse ++ seen.asked
  reported : again =
    { report with attached := 0, alreadyBound := report.alreadyBound + report.attached, pruned := 0 }

/-- A pass keeps what it must not touch. -/
theorem Passed.keeps (passed : Passed first entities pairs report seen) :
    seen.keeps entities = first.keeps entities := by
  obtain ⟨-, -, binder, -⟩ := View.still_of_frame passed.frame
  funext pair
  rw [View.keeps, View.truncates, binder]
  rfl

/-- After a pass the view is ready for another one. -/
theorem Passed.ready (passed : Passed first entities pairs report seen) (ready : Ready first) :
    Ready seen := by
  obtain ⟨present, -, binder, -, -, locked⟩ := View.still_of_frame passed.frame
  exact
    { present := present.trans ready.present
      idle := by rw [binder]; exact ready.idle
      unlocked := locked.trans ready.unlocked
      within := passed.within }

/-- Whatever is bound after a pass would be kept by another. -/
theorem Passed.kept (wants : ∀ pair ∈ pairs, pair.1 ∈ entities)
    (passed : Passed first entities pairs report seen) :
    ∀ pair ∈ seen.bindings, first.keeps entities pair = true := by
  intro pair member
  rw [passed.bindings] at member
  rcases List.mem_append.mp member with old | new
  · exact (List.mem_filter.mp old).2
  · have alive := wants pair (View.mem_fresh.mp new).1.1
    simp [View.keeps, alive]

/-- A pair that is wanted is bound after a pass unless nobody makes a behaviour for it. -/
theorem Passed.mem_bindings (wants : ∀ pair ∈ pairs, pair.1 ∈ entities)
    (passed : Passed first entities pairs report seen) {pair : Entity × String} (member : pair ∈ pairs) :
    pair ∈ seen.bindings ↔ pair ∈ first.bindings ∨ first.resolves pair.2 = true := by
  have alive : first.keeps entities pair = true := by simp [View.keeps, wants pair member]
  rw [passed.bindings, List.mem_append, List.mem_filter, View.mem_fresh]
  by_cases held : pair ∈ first.bindings
  · simp [held, alive]
  · simp [held, member]

/-- After a pass exactly the unresolved pairs are unbound. -/
theorem Passed.unbound (wants : ∀ pair ∈ pairs, pair.1 ∈ entities)
    (passed : Passed first entities pairs report seen) : seen.unbound pairs = first.unresolved pairs := by
  rw [View.unbound, View.unresolved, View.unbound, List.filter_filter]
  apply List.filter_congr
  intro pair member
  have bound := passed.mem_bindings wants member
  by_cases held : pair ∈ first.bindings
  · simp [bound, held]
  · cases resolved : first.resolves pair.2 <;> simp [bound, held, resolved]

/-- After a pass nothing is left to be attached. -/
theorem Passed.fresh (wants : ∀ pair ∈ pairs, pair.1 ∈ entities)
    (passed : Passed first entities pairs report seen) : seen.fresh pairs = [] := by
  apply List.eq_nil_iff_forall_not_mem.mpr
  intro pair member
  obtain ⟨⟨inside, new⟩, resolved⟩ := View.mem_fresh.mp member
  rw [View.resolves_of_frame passed.frame] at resolved
  exact new ((passed.mem_bindings wants inside).mpr (Or.inr resolved))

/-- After a pass the same pairs are unresolved. -/
theorem Passed.unresolved (wants : ∀ pair ∈ pairs, pair.1 ∈ entities)
    (passed : Passed first entities pairs report seen) : seen.unresolved pairs = first.unresolved pairs := by
  rw [View.unresolved, passed.unbound wants]
  apply List.filter_eq_self.mpr
  intro pair member
  rw [View.resolves_of_frame passed.frame]
  exact (List.mem_filter.mp member).2

/-- The second of two passes over the same entities changes nothing. -/
theorem Passed.settled (wants : ∀ pair ∈ pairs, pair.1 ∈ entities)
    (passed : Passed first entities pairs report seen) (repeated : Passed seen entities pairs again last) :
    Settled first seen pairs report again last := by
  have kept : ∀ pair ∈ seen.bindings, seen.keeps entities pair = true := by
    rw [passed.keeps]
    exact passed.kept wants
  have nothing : (seen.bindings.filter fun pair => !seen.keeps entities pair) = [] := by
    apply List.filter_eq_nil_iff.mpr
    intro pair member
    simp [kept pair member]
  obtain ⟨-, -, binder, -, chain, -⟩ := View.still_of_frame passed.frame
  have reported := repeated.reported
  rw [View.report, nothing] at reported
  have scanned : again.scanned = report.scanned := by rw [reported, passed.reported]; rfl
  have attached : again.attached = 0 := by
    rw [reported]
    exact congrArg List.length (passed.fresh wants)
  have unresolved : again.unresolved = report.unresolved := by
    rw [reported, passed.reported]
    exact passed.unresolved wants
  have pruned : again.pruned = 0 := by rw [reported]; rfl
  have truncated : again.truncated = report.truncated := by
    rw [reported, passed.reported]
    change seen.truncates entities = first.truncates entities
    rw [View.truncates, binder]
    rfl
  have alreadyBound : again.alreadyBound = report.alreadyBound + report.attached := by
    have before := passed.sum
    have later := repeated.sum
    rw [attached, unresolved] at later
    omega
  refine
    { bindings := ?_
      systems := repeated.systems
      asked := ?_
      reported := ?_ }
  · rw [repeated.bindings, passed.fresh wants, List.append_nil]
    exact List.filter_eq_self.mpr kept
  · rw [repeated.asked, View.requests, passed.unbound wants, chain]
  · cases again
    simp only at scanned attached unresolved pruned truncated alreadyBound
    rw [scanned, attached, alreadyBound, unresolved, pruned, truncated]

/-- Binding all comes to an end: nothing changes when the entities cannot be listed, and otherwise a pass over
distinct entities has its exact effect, which lasts if another pass follows at once. The engine may panic
instead while it tells what an entity declares. -/
structure Settles (call : Caller) (host : Nat) (world : World) : Prop where
  refused : ∀ error, world.engine.liveEntities (view world host).binder.cap = .error error →
    (bindAll call host).Ends world fun result after => result = .ok (.error error) ∧ after = world
  panicked : ∀ entities message, world.engine.liveEntities (view world host).binder.cap = .ok entities →
    entities.Nodup → wanted world.engine entities = .error message →
    (bindAll call host).Ends world fun result _ => result = .error (.panicked message)
  passed : ∀ entities pairs, world.engine.liveEntities (view world host).binder.cap = .ok entities →
    entities.Nodup → wanted world.engine entities = .ok pairs →
    (bindAll call host).Ends world fun result after => ∃ report, result = .ok (.ok report) ∧
      Passed (view world host) entities pairs report (view after host) ∧
      (bindAll call host).Ends after fun result last => ∃ again, result = .ok (.ok again) ∧
        Settled (view world host) (view after host) pairs report again (view last host)

/-- After a pass nothing is left that a pass over the same entities would dispose of. -/
theorem Passed.disposable (wants : ∀ pair ∈ pairs, pair.1 ∈ entities)
    (passed : Passed first entities pairs report seen) (whole : seen.truncates entities = false) :
    Disposable call host seen entities := by
  intro id member pair told apart
  have bound : pair ∈ seen.bindings := List.mem_filterMap.mpr ⟨id, member, told⟩
  have kept := passed.kept wants pair bound
  rw [← passed.keeps, View.keeps, whole] at kept
  exact absurd (by simpa using kept) apart

/-- A binder that is ready settles, if factories and hooks leave alone what it sees. -/
theorem bindAll_settles (ready : Ready (view world host)) (calm : Calm call host (view world host)) :
    Settles call host world where
  refused error fails := by
    rw [bindAll_ends ready.idle, fails]
    exact ⟨rfl, rfl⟩
  panicked entities message lists distinct wants := by
    have binds := bindAll_binds ready calm.tame lists
      (fun _ id member pair told _ => calm.disposable id member pair told List.not_mem_nil) distinct
    rw [wants] at binds
    exact binds
  passed entities pairs lists distinct wants := by
    have alive : ∀ pair ∈ pairs, pair.1 ∈ entities := fun pair member => wanted_mem wants member
    have binds := bindAll_binds ready calm.tame lists
      (fun _ id member pair told _ => calm.disposable id member pair told List.not_mem_nil) distinct
    rw [wants] at binds
    apply binds.mono
    intro result after done
    obtain ⟨report, rfl, passed⟩ := done
    refine ⟨report, rfl, passed, ?_⟩
    obtain ⟨-, engine, binder, -, chain, -⟩ := View.still_of_frame passed.frame
    change after.engine = world.engine at engine
    have tame : ∀ entry ∈ (view after host).chain, Tame call host entry.2 := by
      rw [chain]
      exact calm.tame
    have relists : after.engine.liveEntities (view after host).binder.cap = .ok entities := by
      rw [engine, binder]
      exact lists
    have rebinds := bindAll_binds (passed.ready ready) tame relists (passed.disposable alive) distinct
    rw [engine, wants] at rebinds
    apply rebinds.mono
    intro result last done
    obtain ⟨again, rfl, repeated⟩ := done
    exact ⟨again, rfl, passed.settled alive repeated⟩

/-- Whatever this behaviour does, it says a word. -/
def sayingHooks : BehaviourHooks Operation where
  attach := ⟨fun _ => ⟨[⟨"", "", .say "attached"⟩], .normal⟩⟩
  start := ⟨fun _ => ⟨[⟨"", "", .say "started"⟩], .normal⟩⟩
  update := ⟨fun _ => ⟨[⟨"", "", .say "updated"⟩], .normal⟩⟩
  dispose := ⟨fun _ => ⟨[⟨"", "", .say "disposed"⟩], .normal⟩⟩

def doorFactory : Factory Operation where
  ask script := ⟨[⟨"", "", .say script⟩], if script = "door" then .made sayingHooks else .declined⟩

def doorEntity : Entity := EntityStore.entityOf 1 0

/-- An entity wants two scripts, of which a factory knows one, and a behaviour of another entity is left. -/
def doorWorld : World :=
  let orphan : Receiver := .behaviour ⟨0⟩ "wall" (.hooked ⟨0, "", sayingHooks.attach⟩
    ⟨1, "", sayingHooks.start⟩ ⟨2, "", sayingHooks.update⟩ ⟨3, "", sayingHooks.dispose⟩)
  { World.create ⟨[], []⟩ .lowest with
    engine := ((Engine.create Engine.standardInterval).spawn [("scripts", "[\"door\", \"lost\"]")]).1
    hosts := [{ Host.create [0] standardCap none with
      registry := ⟨[⟨orphan, true, .live, false⟩], [0], false⟩ }]
    factories := [⟨doorFactory, 0, 0⟩]
    uses := [0, 0, 0, 0] }

/-- A hook that says some words only looks. -/
theorem looks_saying {words : String} : ∀ command ∈ [(⟨"", "", .say words⟩ : Command Operation)],
    Looks command.operation := by
  intro command member
  rw [List.mem_singleton.mp member]
  exact .say words

/-- The factory of the example makes behaviours that say some words. -/
theorem doorFactory_made {script : String} {hooks : BehaviourHooks Operation}
    (made : (doorFactory.ask script).offer = .made hooks) : hooks = sayingHooks := by
  change (if script = "door" then Offer.made sayingHooks else .declined) = .made hooks at made
  split at made
  · exact (Offer.made.inj made).symm
  · cases made

/-- The factory of the example only looks. -/
theorem doorFactory_looking : LookingFactory doorFactory where
  commands _ := looks_saying
  attachments _ _ made := by
    rw [doorFactory_made made]
    exact fun _ => looks_saying

/-- The world of the example is ready for a pass. -/
theorem doorWorld_ready : Ready (view doorWorld 0) where
  present := rfl
  idle := rfl
  unlocked := rfl
  within := by
    intro id member
    rw [List.mem_singleton.mp member]
    exact Nat.zero_lt_one

/-- In the example a pass is calm. -/
theorem doorWorld_calm : Calm (caller 1) 0 (view doorWorld 0) := by
  refine calm_of_looking ?_ ?_ 0 0
  · intro entry member
    obtain rfl := List.mem_singleton.mp member
    exact doorFactory_looking
  · intro receiver member
    obtain rfl := List.mem_singleton.mp member
    exact fun _ => looks_saying

/-- One of the two scripts is attached, the other is unresolved, and the second pass says the same. -/
theorem bindAll_settles_door : Settles (caller 1) 0 doorWorld ∧
    doorWorld.engine.liveEntities standardCap = .ok [doorEntity] ∧
    wanted doorWorld.engine [doorEntity] = .ok [(doorEntity, "door"), (doorEntity, "lost")] ∧
    (view doorWorld 0).report [doorEntity] [(doorEntity, "door"), (doorEntity, "lost")] =
      ⟨1, 1, 0, [(doorEntity, "lost")], 1, false⟩ := by
  refine ⟨bindAll_settles doorWorld_ready doorWorld_calm, ?_, ?_, ?_⟩
  · decide +kernel
  · decide +kernel
  · decide +kernel

end ScriptHost.Session.Binding
