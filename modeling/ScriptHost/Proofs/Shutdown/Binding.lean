/-
This file follows a binder through its passes.
-/
import ScriptHost.Proofs.Binding.Making
import ScriptHost.Proofs.Shutdown.Arriving

namespace ScriptHost.Session.Shutdown

open Binding (Pass recover)

variable {host place : Nat} {call : Caller} {origin world after : World}

/-- Hooking something up does not count for any host. -/
theorem hooked_idle (label : String) (hook : Hook Operation) : Idle host (Run.hooked label hook) :=
  fun _ => idles_aside rfl rfl rfl

/-- The hooks of a behaviour are named without any host noticing. -/
theorem behaviourHooks_idle (label : String) (hooks : BehaviourHooks Operation) :
    Idle host (Binding.behaviourHooks label hooks) := by
  apply (hooked_idle _ _).bind
  intro attach
  apply (hooked_idle _ _).bind
  intro start
  apply (hooked_idle _ _).bind
  intro update
  apply (hooked_idle _ _).bind
  exact fun dispose => idle_pure _

/-- Counting what a factory made does not count for any host. -/
theorem countMade_idle (id : Nat) : Idle host (Binding.countMade id) := by
  intro world
  change (Binding.countMade id).Ends world fun _ after => Idles host world after
  unfold Binding.countMade
  rw [Run.ends_bind, Run.ends_get, Run.followed_ok]
  dsimp only
  cases world.factories[id]? with
  | none => exact .refl world
  | some state => exact idles_aside rfl rfl rfl

/-- A factory may carry out commands before it makes a behaviour. -/
theorem askFactory_passes (careful : Careful host call) (id : Nat) (script : String)
    (passage : Passage host [] True origin world) :
    Passes host [] origin world (Binding.askFactory call id script) := by
  unfold Passes Binding.askFactory
  rw [Run.ends_bind, Run.ends_get, Run.followed_ok]
  cases world.factories[id]? with
  | none => exact passes_pure passage none
  | some state =>
      apply ((idle_note rfl : Idle host _).passes passage).bind
      intro _ asked passage
      apply ((careful.perform _ asked passage.sound).start passage).bind
      intro _ answered passage
      split
      · exact passes_pure passage none
      · exact passes_throw passage _
      · next hooks _ =>
          apply ((countMade_idle id).passes passage).bind
          intro count counted passage
          apply ((behaviourHooks_idle _ hooks).passes passage).bind
          exact fun logic made passage => passes_pure passage (some logic)

/-- A chain of factories passes if each of them does. -/
theorem askChain_passes (careful : Careful host call) (script : String) (chain : List Nat)
    (passage : Passage host [] True origin world) :
    Passes host [] origin world (Binding.askChain call script chain) := by
  induction chain generalizing world with
  | nil => exact passes_pure passage none
  | cons id rest ih =>
      apply (askFactory_passes careful id script passage).bind
      intro logic after passage
      cases logic with
      | some logic => exact passes_pure passage (some logic)
      | none => exact ih passage

/-- A behaviour is created by a factory or from a compiled unit, or not at all. -/
theorem create_passes (careful : Careful host call) (chain : List Nat) (script : String)
    (passage : Passage host [] True origin world) :
    Passes host [] origin world (Binding.create call place chain script) := by
  apply (askChain_passes careful script chain passage).bind
  intro logic after passage
  cases logic with
  | some logic => exact passes_pure passage (some logic)
  | none =>
      apply ((idle_plain (Run.plain_runtime? place)).passes passage).bind
      intro runtime last passage
      cases runtime with
      | none => exact passes_pure passage none
      | some runtime => exact passes_pure passage _

/-- A factory that fails has still done what it did. -/
theorem createSafely_passes (careful : Careful host call) (chain : List Nat) (entity : Entity)
    (script : String) (passage : Passage host [] True origin world) :
    Passes host [] origin world (Binding.createSafely call place chain entity script) := by
  rw [Binding.createSafely_eq]
  apply (create_passes careful chain script passage).tryCatch
  · intro raised after mild passage
    cases raised with
    | failed causes =>
        apply ((report_idle _).passes passage).bind
        exact fun _ last passage => passes_pure passage none
    | panicked message =>
        apply ((report_idle _).passes passage).bind
        exact fun _ last passage => passes_pure passage none
    | stuck => exact mild.elim
    | exhausted => exact mild.elim
  · intro raised wild
    cases raised with
    | failed causes => exact absurd trivial wild
    | panicked message => exact absurd trivial wild
    | stuck => rfl
    | exhausted => rfl

section Pass

variable (careful : Careful host call) (chain : List Nat) (present : place < origin.hosts.length)

include careful present

/-- One declared name of an entity is bound. -/
theorem bindName_passes (entity : Entity) (pass : Pass) (script : String)
    (passage : Passage host [] True origin world) :
    Passes host [] origin world (Binding.bindName call place chain entity pass script) := by
  unfold Binding.bindName
  split
  · exact passes_pure passage _
  · apply (createSafely_passes careful chain entity script passage).bind
    intro logic created passage
    cases logic with
    | none =>
        apply ((report_idle _).passes passage).bind
        exact fun _ last passage => passes_pure passage _
    | some logic =>
        have entering := register_passes careful (.behaviour entity script logic) passage.sound
          (passage.present present)
        apply (entering.start passage).bind
        intro id last passage
        cases id with
        | none => exact passes_pure passage _
        | some id => exact passes_pure passage _

/-- The declared names of an entity are bound one after the other. -/
theorem bindNames_passes (entity : Entity) (pass : Pass) (names : List String)
    (passage : Passage host [] True origin world) :
    Passes host [] origin world (Binding.bindNames call place chain entity pass names) := by
  induction names generalizing world pass with
  | nil => exact passes_pure passage pass
  | cons name rest ih =>
      apply (bindName_passes careful chain present entity pass name passage).bind
      exact fun pass after passage => ih pass passage

/-- The entities of a pass are bound one after the other. -/
theorem bindEntities_passes (pass : Pass) (entities : List Entity)
    (passage : Passage host [] True origin world) :
    Passes host [] origin world (Binding.bindEntities call place chain pass entities) := by
  induction entities generalizing world pass with
  | nil => exact passes_pure passage pass
  | cons entity rest ih =>
      apply ((idle_plain (Binding.declared_plain entity)).passes passage).bind
      intro names read passage
      apply (bindNames_passes careful chain present entity pass names passage).bind
      exact fun pass after passage => ih pass passage

omit chain in
/-- The behaviours of the dead are removed before anything is bound. -/
theorem prune_passes (entities : List Entity) (pruned : Nat) (passage : Passage host [] True origin world) :
    Passes host [] origin world (Binding.prune call place entities pruned) := by
  induction entities generalizing world pruned with
  | nil => exact passes_pure passage pruned
  | cons entity rest ih =>
      have purging := removeWhere_passes careful (Scheduler.ofEntity entity) passage.sound
        (passage.present present)
      apply (purging.start passage).bind
      exact fun removed after passage => ih _ passage

/-- A pass prunes and binds. -/
theorem pass_passes (cap : Nat) (entities : List Entity) (passage : Passage host [] True origin world) :
    Passes host [] origin world (Binding.pass call place chain cap entities) := by
  apply passes_registry passage
  intro _
  apply (bindEntities_passes careful chain present _ entities passage).bind
  intro bound after passage
  split
  · apply ((report_idle _).passes passage).bind
    exact fun _ last passage => passes_pure passage _
  · apply (prune_passes careful present _ 0 passage).bind
    exact fun pruned last passage => passes_pure passage _

end Pass

/-- A host does not close by being marked as used. -/
theorem setBusy_idle (busy : Bool) : Idle host (Binding.setBusy place busy) :=
  idle_modifyHost place fun _ => ⟨rfl, .refl _, rfl⟩

/-- Marking a host as used cannot fail. -/
theorem setBusy_sure (busy : Bool) : Sure (Binding.setBusy place busy) :=
  sure_returns fun _ => ⟨_, rfl⟩

/-- Whatever becomes of a pass, the binder is free again. -/
theorem bindAll_passes (careful : Careful host call) (present : place < origin.hosts.length)
    (passage : Passage host [] True origin world) :
    Passes host [] origin world (Binding.bindAll call place) := by
  unfold Passes Binding.bindAll
  rw [Run.ends_bind, Run.ends_host, Run.followed_ok]
  dsimp only
  split
  · exact passes_throw passage .stuck
  · rw [Run.ends_bind, Run.ends_get, Run.followed_ok]
    split
    · exact passes_pure passage _
    · next entities _ =>
        apply ((setBusy_idle true).passes passage).bind
        intro _ busy passage
        have going := pass_passes careful ((world.hosts[place]?).getD .core).binder.factories present
          ((world.hosts[place]?).getD .core).binder.cap entities passage
        apply (going.afterwards (setBusy_sure false) _).bind
        · exact fun report last passage => passes_pure passage _
        · exact fun after sound _ => (setBusy_idle false).passes (.refl sound)

end ScriptHost.Session.Shutdown
