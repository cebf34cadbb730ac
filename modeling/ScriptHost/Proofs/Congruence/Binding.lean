/-
This file shows that binders do the same in related worlds and leave related worlds, whatever their factories
make.
-/
import ScriptHost.Proofs.Binding.Making
import ScriptHost.Proofs.Congruence.Scheduling

namespace ScriptHost.Session

open Effect (Together Twin)
open Run (agrees_pure agrees_throw agreesOn_pure agrees_get)

variable {scope : Scope} {fits : Nat → Receiver → Prop} {related : World → World → Prop} {call : Caller}
  {host : Nat} {script : String}

/-- Such a behaviour can be registered for the script, whichever entity declares it. -/
structure Suited (scope : Scope) (fits : Nat → Receiver → Prop) (host : Nat) (script : String)
    (logic : BehaviourLogic) : Prop where
  within : logic.Within scope
  fits : ∀ entity, fits host (.behaviour entity script logic)

/-- If anything was made, it is suited for the script. -/
def Supplies (scope : Scope) (fits : Nat → Receiver → Prop) (host : Nat) (script : String)
    (made : Option BehaviourLogic) : Prop :=
  ∀ logic, made = some logic → Suited scope fits host script logic

/-- Nothing is supplied where nothing is made. -/
theorem supplies_none : Supplies scope fits host script none := by
  intro logic absurd
  cases absurd

/-- A behaviour that suits its host is supplied. -/
theorem Suited.supplies {logic : BehaviourLogic} (suited : Suited scope fits host script logic) :
    Supplies scope fits host script (some logic) := by
  rintro _ ⟨⟩
  exact suited

namespace Binding

section Reading

variable (congruence : Congruence scope fits related) (entity : Entity)

include congruence

/-- A key is read alike in related worlds. -/
theorem readKey_agrees (key : String) : (readKey entity key).Agrees related := by
  apply agrees_get
  · intro world other holds
    rw [congruence.engine holds]
  · intro world _ _
    dsimp only
    split
    · exact agrees_throw _
    · split
      · exact agrees_pure _
      · exact (congruence.agrees_report _).bind fun _ => agrees_pure _

/-- The names of a key are read alike in related worlds. -/
theorem readNames_agrees (key : String) (parse : String → Option (List String)) :
    (readNames entity key parse).Agrees related := by
  apply (readKey_agrees congruence entity key).bind
  intro value
  cases value with
  | none => exact agrees_pure _
  | some text =>
      cases parsed : parse text with
      | some names => simpa only [parsed] using agrees_pure (some names)
      | none => simpa only [parsed] using (congruence.agrees_report _).bind fun _ => agrees_pure none

/-- An entity declares the same scripts in related worlds. -/
theorem declared_agrees : (declared entity).Agrees related := by
  apply (readNames_agrees congruence entity _ _).bind
  intro record
  cases record with
  | some names => exact agrees_pure _
  | none =>
      apply (readNames_agrees congruence entity _ _).bind
      intro listed
      cases listed <;> exact agrees_pure _

omit entity in
/-- Hooks within the scope make behaviours within the scope. -/
theorem behaviourHooks_suited (host : Nat) (script label : String) {hooks : BehaviourHooks Operation}
    (within : hooks.Within scope) :
    (behaviourHooks label hooks).AgreesOn related (Suited scope fits host script) := by
  apply (congruence.agrees_hooked _ _).then
  rintro ⟨_, _, _⟩ _ ⟨rfl, rfl⟩
  apply (congruence.agrees_hooked _ _).then
  rintro ⟨_, _, _⟩ _ ⟨rfl, rfl⟩
  apply (congruence.agrees_hooked _ _).then
  rintro ⟨_, _, _⟩ _ ⟨rfl, rfl⟩
  apply (congruence.agrees_hooked _ _).then
  rintro ⟨_, _, _⟩ _ ⟨rfl, rfl⟩
  apply agreesOn_pure
  constructor
  · exact ⟨within.attach.panicking, within.start, within.update, within.dispose.panicking⟩
  · exact fun entity =>
      congruence.hooked ⟨within.attach.panicking, within.start, within.update, within.dispose.panicking⟩

end Reading

/-- A factory has made as many behaviours in one world as in the other. -/
theorem countMade_agrees (stocked : Stocked scope related) (id : Nat) : (countMade id).Agrees related := by
  apply agrees_get
  · intro world other holds
    rw [stocked.factories holds]
  · intro world other holds
    dsimp only
    split
    · next state found =>
        have counted : (modify fun world' : World =>
            { world' with factories := world.factories.set id { state with made := state.made + 1 } } :
              Run Unit).Agrees related := by
          apply Run.agrees_modify
          intro world' other' holds'
          apply stocked.restock _ holds'
          intro changed member
          obtain member | rfl := List.mem_or_eq_of_mem_set member
          · exact stocked.within holds changed member
          · exact stocked.within holds state (List.mem_of_getElem? found)
        exact counted.bind fun _ => agrees_pure _
    · exact agrees_pure _

section Asking

variable (heeding : call.Heeding scope fits) (heeds : Heeds scope fits related) (stocked : Stocked scope related)

include heeding heeds stocked

/-- One factory supplies behaviours of the scope. -/
theorem askFactory_suited (host id : Nat) (script : String) :
    (askFactory call id script).AgreesOn related (Supplies scope fits host script) := by
  apply agrees_get
  · intro world other holds
    rw [stocked.factories holds]
  · intro world other holds
    split
    · exact agreesOn_pure supplies_none
    · next state found =>
        have within := stocked.within holds state (List.mem_of_getElem? found)
        apply (heeds.agrees_note rfl).then
        rintro _ _ rfl
        apply (heeding.perform heeds (within.commands script)).then
        rintro _ _ rfl
        cases offered : (state.factory.ask script).offer with
        | declined => exact agreesOn_pure supplies_none
        | panic message => exact Effect.together_throw rfl
        | made hooks =>
            apply (countMade_agrees stocked id).then
            rintro count _ rfl
            apply (behaviourHooks_suited heeds.toCongruence host script _ (within.made script hooks offered)).then
            rintro logic _ ⟨rfl, suited⟩
            exact agreesOn_pure suited.supplies

/-- So does a chain of factories. -/
theorem askChain_suited (host : Nat) (script : String) (chain : List Nat) :
    (askChain call script chain).AgreesOn related (Supplies scope fits host script) := by
  induction chain with
  | nil => exact agreesOn_pure supplies_none
  | cons id rest ih =>
      apply (askFactory_suited heeding heeds stocked host id script).then
      rintro made _ ⟨rfl, suited⟩
      cases made with
      | none => exact ih
      | some logic => exact agreesOn_pure suited

end Asking

variable (heeding : call.Heeding scope fits) (heeds : Heeds scope fits related)
  (bindable : Bindable scope fits related)

include heeding heeds bindable

omit heeding heeds in
/-- What the library makes can be registered as well. -/
theorem library_suited (script : String) :
    (Run.runtime? host >>= fun runtime => match runtime with
      | none => pure none
      | some runtime => pure ((runtime.behaviours.find? script).map fun unit => .scripted unit (.map [])) :
        Run (Option BehaviourLogic)).AgreesOn related (Supplies scope fits host script) := by
  have read : ∀ world : World, (Run.runtime? host >>= fun runtime => match runtime with
      | none => pure none
      | some runtime => pure ((runtime.behaviours.find? script).map fun unit => .scripted unit (.map [])) :
        Run (Option BehaviourLogic)).run.run world =
      (.ok (((world.hostOf host).runtime.map Runtime.behaviours).bind fun library =>
        (library.find? script).map fun unit => .scripted unit (.map [])), world) := by
    intro world
    change (match (world.hostOf host).runtime with
      | none => pure none
      | some runtime => pure ((runtime.behaviours.find? script).map fun unit => .scripted unit (.map [])) :
        Run (Option BehaviourLogic)).run.run world = _
    cases (world.hostOf host).runtime <;> rfl
  intro world other holds
  rw [read, read, ← bindable.library holds host]
  refine ⟨⟨rfl, ?_⟩, holds⟩
  intro logic member
  obtain ⟨library, held, made⟩ := Option.bind_eq_some_iff.mp member
  obtain ⟨runtime, running, rfl⟩ := Option.map_eq_some_iff.mp held
  obtain ⟨unit, found, rfl⟩ := Option.map_eq_some_iff.mp made
  exact ⟨trivial, fun _ => bindable.scripted holds running found⟩

/-- What factories do not make comes from the library, and it suits the host. -/
theorem create_suited (chain : List Nat) (script : String) :
    (create call host chain script).AgreesOn related (Supplies scope fits host script) := by
  apply (askChain_suited heeding heeds bindable.toStocked host script chain).then
  rintro made _ ⟨rfl, suited⟩
  cases made with
  | some logic => exact agreesOn_pure suited
  | none => exact library_suited bindable script

/-- A faulty factory supplies nothing, in both worlds. -/
theorem createSafely_suited (chain : List Nat) (entity : Entity) (script : String) :
    (createSafely call host chain entity script).AgreesOn related (Supplies scope fits host script) := by
  rw [createSafely_eq]
  apply (create_suited heeding heeds bindable chain script).tryCatch
  intro raised
  have reported : ∀ record, (do Run.report record; return none : Run (Option BehaviourLogic)).AgreesOn related
      (Supplies scope fits host script) := by
    intro record
    apply (heeds.agrees_report record).then
    rintro _ _ rfl
    exact agreesOn_pure supplies_none
  cases raised with
  | failed causes => exact reported _
  | panicked message => exact reported _
  | stuck => exact Effect.together_throw rfl
  | exhausted => exact Effect.together_throw rfl

/-- Each name is bound or passed over in both worlds. -/
theorem bindName_agrees (chain : List Nat) (entity : Entity) (pass : Pass) (script : String) :
    (bindName call host chain entity pass script).Agrees related := by
  unfold bindName
  split
  · exact agrees_pure _
  · apply (createSafely_suited heeding heeds bindable chain entity script).bind
    intro made suited
    cases made with
    | none => exact (heeds.agrees_report _).bind fun _ => agrees_pure _
    | some logic =>
        have suited := suited logic rfl
        have registered := Scheduler.register_agrees heeding heeds (.behaviour entity script logic) suited.within
          (suited.fits entity)
        apply registered.bind
        intro id
        cases id <;> exact agrees_pure _

/-- The names of an entity are bound in the same order in both worlds. -/
theorem bindNames_agrees (chain : List Nat) (entity : Entity) (pass : Pass) (names : List String) :
    (bindNames call host chain entity pass names).Agrees related := by
  induction names generalizing pass with
  | nil => exact agrees_pure _
  | cons name rest ih =>
      exact (bindName_agrees heeding heeds bindable chain entity pass name).bind fun pass => ih pass

/-- Entities are visited in the same order in both worlds. -/
theorem bindEntities_agrees (chain : List Nat) (pass : Pass) (entities : List Entity) :
    (bindEntities call host chain pass entities).Agrees related := by
  induction entities generalizing pass with
  | nil => exact agrees_pure _
  | cons entity rest ih =>
      apply (declared_agrees heeds.toCongruence entity).bind
      intro names
      exact (bindNames_agrees heeding heeds bindable chain entity pass names).bind fun pass => ih pass

omit bindable in
/-- The same orphans are pruned in both worlds. -/
theorem prune_agrees (entities : List Entity) (pruned : Nat) :
    (prune call host entities pruned).Agrees related := by
  induction entities generalizing pruned with
  | nil => exact agrees_pure _
  | cons entity rest ih =>
      exact (Scheduler.removeWhere_agrees heeding heeds _).bind fun removed => ih _

/-- A pass gives the same report in both worlds. -/
theorem pass_agrees (chain : List Nat) (cap : Nat) (entities : List Entity) :
    (pass call host chain cap entities).Agrees related := by
  apply heeds.agrees_registry
  intro registry _
  apply (bindEntities_agrees heeding heeds bindable chain _ entities).bind
  intro bound
  dsimp only
  split
  · exact (heeds.agrees_report _).bind fun _ => agrees_pure _
  · exact (prune_agrees heeding heeds _ 0).bind fun _ => agrees_pure _

omit heeding heeds in
/-- The binder is marked as busy in both worlds. -/
theorem setBusy_agrees (busy : Bool) : (setBusy host busy).Agrees related := by
  refine fun world other holds => ⟨rfl, ?_⟩
  have kept := bindable.rebind host { (world.hostOf host).binder with busy } holds
  change related (world.putHost host { world.hostOf host with binder := { (world.hostOf host).binder with busy } })
    (other.putHost host { other.hostOf host with binder := { (other.hostOf host).binder with busy } })
  rwa [← bindable.binder holds host]

/-- A pass over the entities that are alive. -/
theorem begun_agrees (binder : Binder) : (get >>= fun world : World =>
    match world.engine.liveEntities binder.cap with
    | .error error => pure (.error error)
    | .ok entities => do
        setBusy host true
        let report ← Run.afterwards (pass call host binder.factories binder.cap entities) (setBusy host false)
        pure (.ok report) : Run (Except NativeError BindReport)).Agrees related := by
  apply agrees_get
  · intro world other holds
    rw [heeds.engine holds]
  · intro world _ _
    split
    · exact agrees_pure _
    · apply (setBusy_agrees bindable true).bind
      intro _
      apply ((pass_agrees heeding heeds bindable _ _ _).afterwards (setBusy_agrees bindable false)).bind
      exact fun _ => agrees_pure _

/-- Both worlds let the binder in, or both turn it away. -/
theorem bindAll_agrees : (bindAll call host).Agrees related := by
  apply Run.agrees_host
  · intro world other holds
    rw [bindable.binder holds host]
  · intro world other holds
    dsimp only
    split
    · exact (agrees_throw _).bind (fun _ => begun_agrees heeding heeds bindable _) _ _ holds
    · exact begun_agrees heeding heeds bindable _ _ _ holds

end Binding

end ScriptHost.Session
