/-
This file says which behaviours a pass attaches to the entities that it looks at.
-/
import Mathlib.Data.List.Basic
import ScriptHost.Proofs.Binding.Making

namespace ScriptHost.Session.Binding

open World (registryOf)

namespace View

/-- Whatever is registered has been accepted. -/
def Within (view : View) : Prop :=
  ∀ id ∈ view.registered, id < view.receivers.length

def enlist (view : View) (receiver : Receiver) : View :=
  { view with
    receivers := view.receivers ++ [receiver]
    registered := view.registered ++ [view.receivers.length] }

/-- The pairs that the registry does not hold. -/
def unbound (view : View) (pairs : List (Entity × String)) : List (Entity × String) :=
  pairs.filter fun pair => !view.bindings.contains pair

def fresh (view : View) (pairs : List (Entity × String)) : List (Entity × String) :=
  (view.unbound pairs).filter fun pair => view.resolves pair.2

def unresolved (view : View) (pairs : List (Entity × String)) : List (Entity × String) :=
  (view.unbound pairs).filter fun pair => !view.resolves pair.2

/-- Factories are asked for the unbound pairs alone. -/
def requests (view : View) (pairs : List (Entity × String)) : List (Nat × String) :=
  (view.unbound pairs).flatMap fun pair => consulted pair.2 view.chain

def tally (view : View) (scanned : Nat) (truncated : Bool) (pairs : List (Entity × String)) : BindReport where
  scanned := scanned
  attached := (view.fresh pairs).length
  alreadyBound := (pairs.filter view.bindings.contains).length
  unresolved := view.unresolved pairs
  pruned := 0
  truncated := truncated

variable {view : View} {pairs : List (Entity × String)} {pair : Entity × String}

/-- A newcomer stands behind all who were registered. -/
theorem enlist_traits {Trait : Type} (within : view.Within) (receiver : Receiver)
    (tell : Receiver → Option Trait) :
    (view.enlist receiver).traits tell = view.traits tell ++ (tell receiver).toList := by
  have old : ∀ id ∈ view.registered, (view.enlist receiver).trait? tell id = view.trait? tell id := by
    intro id member
    have same : (view.enlist receiver).receivers[id]? = view.receivers[id]? :=
      List.getElem?_append_left (within id member)
    rw [trait?, same, trait?]
  have new : (view.enlist receiver).trait? tell view.receivers.length = tell receiver := by
    simp [trait?, enlist]
  change (view.registered ++ [view.receivers.length]).filterMap ((view.enlist receiver).trait? tell) = _
  rw [List.filterMap_append, List.filterMap_congr old, List.filterMap_cons, new]
  cases tell receiver <;> rfl

/-- What factories have been asked does not change whom a newcomer stands behind. -/
theorem ask_enlist_traits {Trait : Type} (within : view.Within) (requests : List (Nat × String))
    (receiver : Receiver) (tell : Receiver → Option Trait) :
    ((view.ask requests).enlist receiver).traits tell = view.traits tell ++ (tell receiver).toList :=
  enlist_traits (show (view.ask requests).Within from within) receiver tell

/-- A newcomer has a place of its own. -/
theorem enlist_within (within : view.Within) (receiver : Receiver) : (view.enlist receiver).Within := by
  intro id member
  rw [enlist, List.length_append]
  rcases List.mem_append.mp member with old | new
  · exact Nat.lt_succ_of_lt (within id old)
  · rw [List.mem_singleton.mp new]
    exact Nat.lt_succ_self _

/-- Only the registry and the requests differ between these views. -/
theorem still_of_frame {first seen : View} (frame : seen =
    { first with receivers := seen.receivers, registered := seen.registered, asked := seen.asked }) :
    seen.present = first.present ∧ seen.engine = first.engine ∧ seen.binder = first.binder ∧
      seen.library = first.library ∧ seen.chain = first.chain ∧ seen.locked = first.locked := by
  rw [frame]
  exact ⟨rfl, rfl, rfl, rfl, rfl, rfl⟩

/-- What a pass may change does not decide which scripts are resolved. -/
theorem resolves_of_frame {first seen : View} (frame : seen =
    { first with receivers := seen.receivers, registered := seen.registered, asked := seen.asked })
    (script : String) : seen.resolves script = first.resolves script := by
  obtain ⟨-, -, -, library, chain, -⟩ := still_of_frame frame
  rw [resolves, resolves, library, chain]

/-- A pair is fresh if it is declared, unbound, and somebody makes its script. -/
theorem mem_fresh : pair ∈ view.fresh pairs ↔
    (pair ∈ pairs ∧ pair ∉ view.bindings) ∧ view.resolves pair.2 = true := by
  rw [fresh, List.mem_filter, unbound, List.mem_filter]
  simp

/-- A bound pair does not count as unbound. -/
theorem unbound_snoc_known (known : pair ∈ view.bindings) :
    view.unbound (pairs ++ [pair]) = view.unbound pairs := by
  simp [unbound, known]

/-- A pair that is not bound yet is the last of the unbound ones. -/
theorem unbound_snoc_new (new : pair ∉ view.bindings) :
    view.unbound (pairs ++ [pair]) = view.unbound pairs ++ [pair] := by
  simp [unbound, new]

/-- No factory is asked about a bound pair. -/
theorem requests_snoc_known (known : pair ∈ view.bindings) :
    view.requests (pairs ++ [pair]) = view.requests pairs := by
  rw [requests, requests, unbound_snoc_known known]

/-- The chain is asked once about each unbound pair. -/
theorem requests_snoc_new (new : pair ∉ view.bindings) :
    view.requests (pairs ++ [pair]) = view.requests pairs ++ consulted pair.2 view.chain := by
  rw [requests, requests, unbound_snoc_new new]
  simp

/-- A bound pair is counted as such and nowhere else. -/
theorem tally_snoc_known (known : pair ∈ view.bindings) (scanned : Nat) (truncated : Bool) :
    view.tally scanned truncated (pairs ++ [pair]) =
      { view.tally scanned truncated pairs with
        alreadyBound := (view.tally scanned truncated pairs).alreadyBound + 1 } := by
  simp [tally, fresh, unresolved, unbound_snoc_known known, known]

/-- A fresh pair is counted as attached. -/
theorem tally_snoc_fresh (new : pair ∉ view.bindings) (resolved : view.resolves pair.2 = true)
    (scanned : Nat) (truncated : Bool) : view.tally scanned truncated (pairs ++ [pair]) =
      { view.tally scanned truncated pairs with
        attached := (view.tally scanned truncated pairs).attached + 1 } := by
  simp [tally, fresh, unresolved, unbound_snoc_new new, new, resolved]

/-- A pair that nobody makes is listed as unresolved. -/
theorem tally_snoc_unresolved (new : pair ∉ view.bindings) (rejected : view.resolves pair.2 = false)
    (scanned : Nat) (truncated : Bool) : view.tally scanned truncated (pairs ++ [pair]) =
      { view.tally scanned truncated pairs with
        unresolved := (view.tally scanned truncated pairs).unresolved ++ [pair] } := by
  simp [tally, fresh, unresolved, unbound_snoc_new new, new, rejected]

/-- Each name that is declared counts once. -/
theorem tally_sum (view : View) (scanned : Nat) (truncated : Bool) (pairs : List (Entity × String)) :
    (view.tally scanned truncated pairs).attached + (view.tally scanned truncated pairs).alreadyBound +
      (view.tally scanned truncated pairs).unresolved.length = pairs.length := by
  have bound : (pairs.filter view.bindings.contains).length + (view.unbound pairs).length = pairs.length :=
    (List.length_eq_length_filter_add _).symm
  have made : (view.fresh pairs).length + (view.unresolved pairs).length = (view.unbound pairs).length :=
    (List.length_eq_length_filter_add _).symm
  change (view.fresh pairs).length + (pairs.filter view.bindings.contains).length +
    (view.unresolved pairs).length = pairs.length
  omega

end View

variable {world : World} {host : Nat} {call : Caller} {first : View} {scanned : Nat} {truncated : Bool}
  {done : List (Entity × String)} {pass : Pass}

/-- A pair that is not bound is never turned away. -/
theorem accepts_behaviour {registry : Registry} {entity : Entity} {script : String} (logic : BehaviourLogic)
    (new : (entity, script) ∉ registry.bindings) :
    registry.accepts (.behaviour entity script logic) = true := by
  rw [Schedule.Registry.accepts, Bool.not_eq_true', List.any_eq_false]
  intro held member collides
  apply new
  obtain ⟨-, same⟩ := Bool.and_eq_true_iff.mp collides
  exact List.mem_filterMap.mpr ⟨held, member, eq_of_beq same⟩

/-- The lock of a registry is seen by a pass, and nothing else of it changes. -/
theorem yields_lock (present : (view world host).present = true) (locked : Bool) :
    Yields host world (Run.modifyRegistry host fun registry => { registry with locked })
      fun _ seen => seen = { view world host with locked } :=
  view_putRegistry (present_iff.mp present)

/-- The lock is held while the behaviour is attached, and it is given back. -/
theorem attach_yields {logic : BehaviourLogic} (attachable : Attachable call host logic)
    (present : (view world host).present = true)
    (unlocked : (view world host).locked = false) (entity : Entity) (script : String) :
    Yields host world (Scheduler.attach call host entity script logic)
      fun _ seen => seen = view world host := by
  cases logic with
  | scripted unit subject => exact rfl
  | hooked attach start update dispose =>
      refine (yields_lock present true).bind fun _ held locked => ?_
      refine (attachable entity held).isolate.bind fun fault attached same => ?_
      have still : (view attached host).present = true := by
        rw [same, locked]
        exact present
      refine (yields_lock still false).bind fun _ released restored => ?_
      have settled : view released host = view world host := by
        rw [restored, same, locked, ← unlocked]
      cases fault with
      | none => exact settled
      | some fault => exact settled

/-- A behaviour that is not bound yet is registered behind all others. -/
theorem register_yields {entity : Entity} {script : String} {logic : BehaviourLogic}
    (attachable : Attachable call host logic) (present : (view world host).present = true)
    (unlocked : (view world host).locked = false)
    (new : (entity, script) ∉ (view world host).bindings) :
    Yields host world (Scheduler.register call host (.behaviour entity script logic)) fun made seen =>
      made.isSome = true ∧
        seen = (view world host).enlist (bare (.behaviour entity script logic)) := by
  have accepts := accepts_behaviour logic (view_bindings ▸ new)
  unfold Yields Scheduler.register
  rw [Run.ends_bind, Run.ends_registry unlocked, Run.followed_ok, if_pos accepts]
  refine Run.Ends.returns (attach_yields attachable present unlocked entity script) ?_
  intro _ after same
  have free : (view after host).locked = false := by rw [same]; exact unlocked
  have still : host < after.hosts.length := by
    rw [← present_iff, same]
    exact present
  rw [Run.ends_bind, Run.ends_registry free, Run.followed_ok]
  dsimp only
  rw [Run.ends_bind, Run.ends_setRegistry, Run.followed_ok, Run.ends_bind, Run.ends_note, Run.followed_ok]
  refine ⟨rfl, ?_⟩
  change view (after.putRegistry host _) host = _
  rw [view_putRegistry still, ← same]
  simp [View.list, View.enlist, Schedule.Registry.add, view]

/-- What has become of the view and of the report when some pairs have been looked at. -/
structure Progress (first : View) (scanned : Nat) (truncated : Bool) (done : List (Entity × String))
    (pass : Pass) (seen : View) : Prop where
  bound : ∀ pair, pair ∈ pass.bound ↔ pair ∈ seen.bindings
  bindings : seen.bindings = first.bindings ++ first.fresh done
  systems : seen.systems = first.systems
  within : seen.Within
  frame : seen =
    { first with receivers := seen.receivers, registered := seen.registered, asked := seen.asked }
  origin : ∀ id ∈ seen.registered, id ∈ first.registered ∧ seen.receivers[id]? = first.receivers[id]? ∨
    ∃ pair ∈ done, seen.trait? Schedule.Receiver.binding? id = some pair
  asked : seen.asked = (first.requests done).reverse ++ first.asked
  report : pass.report = first.tally scanned truncated done

/-- A pass starts from the bindings that the registry holds. -/
theorem Progress.start (first : View) (within : first.Within) (scanned : Nat) (truncated : Bool) :
    Progress first scanned truncated [] ⟨first.bindings, ⟨scanned, 0, 0, [], 0, truncated⟩⟩ first where
  bound := fun _ => Iff.rfl
  bindings := (List.append_nil _).symm
  systems := rfl
  within := within
  frame := rfl
  origin := fun _ member => Or.inl ⟨member, rfl⟩
  asked := rfl
  report := rfl

/-- A pair that is bound already is counted, and nothing else happens. -/
theorem Progress.known {seen : View} {pair : Entity × String}
    (progress : Progress first scanned truncated done pass seen) (held : pair ∈ first.bindings) :
    Progress first scanned truncated (done ++ [pair]) pass.known seen where
  bound := progress.bound
  bindings := by
    rw [progress.bindings, View.fresh, View.fresh, View.unbound_snoc_known held]
  systems := progress.systems
  within := progress.within
  frame := progress.frame
  origin := fun id member => (progress.origin id member).imp_right fun ⟨pair, inside, told⟩ =>
    ⟨pair, List.mem_append_left _ inside, told⟩
  asked := by
    rw [progress.asked, View.requests_snoc_known held]
  report := by
    rw [View.tally_snoc_known held, ← progress.report]
    rfl

/-- A pair that nobody makes a behaviour for is put down. -/
theorem Progress.unresolved {seen : View} {pair : Entity × String}
    (progress : Progress first scanned truncated done pass seen) (new : pair ∉ first.bindings)
    (rejected : first.resolves pair.2 = false) :
    Progress first scanned truncated (done ++ [pair]) (pass.unresolved pair.1 pair.2)
      (seen.ask (consulted pair.2 first.chain)) where
  bound := progress.bound
  bindings := by
    change seen.bindings = _
    rw [progress.bindings, View.fresh, View.fresh, View.unbound_snoc_new new]
    simp [rejected]
  systems := progress.systems
  within := progress.within
  frame := by
    rw [progress.frame]
    rfl
  origin := fun id member => (progress.origin id member).imp_right fun ⟨pair, inside, told⟩ =>
    ⟨pair, List.mem_append_left _ inside, told⟩
  asked := by
    change (consulted pair.2 first.chain).reverse ++ seen.asked = _
    rw [progress.asked, View.requests_snoc_new new, List.reverse_append, List.append_assoc]
  report := by
    rw [View.tally_snoc_unresolved new rejected, ← progress.report]
    rfl

/-- A pair that a behaviour has been made for is bound from then on. -/
theorem Progress.attached {seen : View} {receiver : Receiver} {pair : Entity × String}
    (progress : Progress first scanned truncated done pass seen) (new : pair ∉ first.bindings)
    (resolved : first.resolves pair.2 = true) (binds : receiver.binding? = some pair)
    (plain : receiver.kind? = none) :
    Progress first scanned truncated (done ++ [pair]) (pass.attached.bind pair.1 pair.2)
      ((seen.ask (consulted pair.2 first.chain)).enlist receiver) where
  bound := by
    intro other
    change other ∈ pair :: pass.bound ↔ _
    rw [View.bindings, View.ask_enlist_traits progress.within, binds, List.mem_cons, progress.bound]
    simp [View.bindings, or_comm]
  bindings := by
    rw [View.bindings, View.ask_enlist_traits progress.within, binds]
    change seen.bindings ++ [pair] = _
    rw [progress.bindings, View.fresh, View.fresh, View.unbound_snoc_new new]
    simp [resolved]
  systems := by
    rw [View.systems, View.ask_enlist_traits progress.within, plain]
    exact (List.append_nil _).trans progress.systems
  within := View.enlist_within progress.within receiver
  frame := by
    rw [progress.frame]
    rfl
  origin := by
    intro id member
    rcases List.mem_append.mp member with old | new
    · have same : (seen.receivers ++ [receiver])[id]? = seen.receivers[id]? :=
        List.getElem?_append_left (progress.within id old)
      rcases progress.origin id old with ⟨held, before⟩ | ⟨pair, inside, told⟩
      · exact Or.inl ⟨held, same.trans before⟩
      · refine Or.inr ⟨pair, List.mem_append_left _ inside, ?_⟩
        exact (congrArg (Option.bind · _) same).trans told
    · rw [List.mem_singleton.mp new]
      refine Or.inr ⟨pair, List.mem_append_right _ List.mem_cons_self, ?_⟩
      exact (congrArg (Option.bind · _) List.getElem?_concat_length).trans binds
  asked := by
    change (consulted pair.2 first.chain).reverse ++ seen.asked = _
    rw [progress.asked, View.requests_snoc_new new, List.reverse_append, List.append_assoc]
  report := by
    rw [View.tally_snoc_fresh new resolved, ← progress.report]
    rfl

/-- One name that has not been looked at is bound, put down or known. -/
theorem bindName_yields {entity : Entity} {script : String}
    (progress : Progress first scanned truncated done pass (view world host))
    (present : first.present = true) (unlocked : first.locked = false)
    (tame : ∀ entry ∈ first.chain, Tame call host entry.2) (new : (entity, script) ∉ done) :
    Yields host world (bindName call host first.binder.factories entity pass script)
      (Progress first scanned truncated (done ++ [(entity, script)])) := by
  obtain ⟨present', -, binder, -, chain, locked⟩ := View.still_of_frame progress.frame
  unfold bindName
  by_cases known : (entity, script) ∈ pass.bound
  · rw [if_pos (List.contains_iff_mem.mpr known)]
    have held : (entity, script) ∈ first.bindings := by
      have inside := (progress.bound _).mp known
      rw [progress.bindings] at inside
      refine (List.mem_append.mp inside).resolve_right fun fresh => ?_
      exact new (View.mem_fresh.mp fresh).1.1
    exact progress.known held
  · rw [if_neg (fun held => known (List.contains_iff_mem.mp held))]
    have absent : (entity, script) ∉ (view world host).bindings :=
      fun inside => known ((progress.bound _).mpr inside)
    have unheld : (entity, script) ∉ first.bindings := by
      rw [progress.bindings] at absent
      exact fun inside => absent (List.mem_append_left _ inside)
    rw [← binder]
    rw [← chain] at tame
    refine (createSafely_yields entity tame).bind fun made after created => ?_
    obtain ⟨asked, decided, attachable⟩ := created
    rw [chain] at asked
    rw [View.resolves_of_frame progress.frame] at decided
    cases made with
    | none =>
        refine (yields_report _).bind fun _ last same => ?_
        rw [asked] at same
        apply yields_pure
        rw [same]
        exact progress.unresolved unheld decided.symm
    | some logic =>
        have still : (view after host).present = true := by
          rw [asked]
          exact present'.trans present
        have free : (view after host).locked = false := by
          rw [asked]
          exact locked.trans unlocked
        have unbound : (entity, script) ∉ (view after host).bindings := by
          rw [asked]
          exact absent
        refine (register_yields (attachable logic rfl) still free unbound).bind fun id last enlisted => ?_
        obtain ⟨registered, same⟩ := enlisted
        obtain ⟨id, rfl⟩ := Option.isSome_iff_exists.mp registered
        apply yields_pure
        rw [same, asked]
        exact progress.attached unheld decided.symm (bare_binding? _) (bare_kind? _)

/-- The names of one entity are looked at in their order. -/
theorem bindNames_yields {entity : Entity} {names : List String}
    (progress : Progress first scanned truncated done pass (view world host))
    (present : first.present = true) (unlocked : first.locked = false)
    (tame : ∀ entry ∈ first.chain, Tame call host entry.2)
    (distinct : names.Nodup) (new : ∀ name ∈ names, (entity, name) ∉ done) :
    Yields host world (bindNames call host first.binder.factories entity pass names)
      (Progress first scanned truncated (done ++ names.map (entity, ·))) := by
  induction names generalizing done pass world with
  | nil =>
      rw [List.map_nil, List.append_nil]
      exact progress
  | cons name rest ih =>
      obtain ⟨apart, distinct⟩ := List.nodup_cons.mp distinct
      refine (bindName_yields progress present unlocked tame (new name List.mem_cons_self)).bind ?_
      intro pass after progress
      have rest' := ih progress distinct fun other member inside => by
        rcases List.mem_append.mp inside with old | here
        · exact new other (List.mem_cons_of_mem _ member) old
        · obtain ⟨-, rfl⟩ := Prod.mk.inj (List.mem_singleton.mp here)
          exact apart member
      rw [List.append_assoc] at rest'
      exact rest'

/-- What comes of a pass over entities: it looks at all they want, or the engine panics on the way. -/
def Covers (host : Nat) (first : View) (scanned : Nat) (truncated : Bool) (done : List (Entity × String)) :
    Except String (List (Entity × String)) → Except Raised Pass → World → Prop
  | .ok pairs, result, after => ∃ pass, result = .ok pass ∧
      Progress first scanned truncated (done ++ pairs) pass (view after host)
  | .error message, result, after =>
      result = .error (.panicked message) ∧ (view after host).binder = first.binder ∧
        (view after host).present = first.present

/-- Distinct entities are looked at in their order. -/
theorem bindEntities_covers {entities : List Entity}
    (progress : Progress first scanned truncated done pass (view world host))
    (present : first.present = true) (unlocked : first.locked = false)
    (tame : ∀ entry ∈ first.chain, Tame call host entry.2)
    (distinct : entities.Nodup) (new : ∀ pair ∈ done, pair.1 ∉ entities) :
    (bindEntities call host first.binder.factories pass entities).Ends world
      (Covers host first scanned truncated done (wanted first.engine entities)) := by
  induction entities generalizing done pass world with
  | nil => exact ⟨pass, rfl, by rwa [List.append_nil]⟩
  | cons entity rest ih =>
      obtain ⟨apart, distinct⟩ := List.nodup_cons.mp distinct
      obtain ⟨present', engine, binder, -⟩ := View.still_of_frame progress.frame
      change world.engine = first.engine at engine
      unfold bindEntities wanted
      rw [Run.ends_bind, ← engine]
      apply (declared_tells entity).mono
      intro result after told
      obtain ⟨rfl, same⟩ := told
      cases declares : declaration world.engine entity with
      | error message =>
          exact ⟨rfl, (congrArg View.binder same).trans binder, (congrArg View.present same).trans present'⟩
      | ok names =>
          rw [raising, Run.followed_ok]
          rw [← same] at progress
          have named := bindNames_yields progress present unlocked tame (declaration_nodup declares)
            fun name _ inside => new _ inside List.mem_cons_self
          refine named.ends fun pass last progress => ?_
          have others := ih progress distinct fun pair inside => by
            rcases List.mem_append.mp inside with old | here
            · exact fun later => new pair old (List.mem_cons_of_mem _ later)
            · obtain ⟨name, -, rfl⟩ := List.mem_map.mp here
              exact apart
          rw [engine]
          apply others.mono
          intro result ended covers
          revert covers
          cases wanted first.engine rest with
          | error message => exact id
          | ok pairs =>
              intro covers
              obtain ⟨pass, same, progress⟩ := covers
              exact ⟨pass, same, by rwa [← List.append_assoc]⟩

end ScriptHost.Session.Binding
