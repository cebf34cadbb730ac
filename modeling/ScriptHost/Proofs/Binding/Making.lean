/-
This file says what the factories and the library make of a script.
-/
import ScriptHost.Proofs.Binding.Asking

namespace ScriptHost.Session.Binding

/-- The offer of the first factory that does not decline. -/
def decision (script : String) : List (Nat × Factory Operation) → Offer Operation
  | [] => .declined
  | (_, factory) :: rest =>
      match (factory.ask script).offer with
      | .declined => decision script rest
      | offer => offer

/-- The requests that are made until a factory does not decline. -/
def consulted (script : String) : List (Nat × Factory Operation) → List (Nat × String)
  | [] => []
  | (id, factory) :: rest =>
      match (factory.ask script).offer with
      | .declined => (id, script) :: consulted script rest
      | _ => [(id, script)]

/-- A factory makes a behaviour for the script without a panic, or all decline and the library has it. -/
def View.resolves (view : View) (script : String) : Bool :=
  match decision script view.chain with
  | .declined => view.library.any fun library => (library.find? script).isSome
  | .made _ => true
  | .panic _ => false

variable {world after : World} {host : Nat} {call : Caller} {script : String}

/-- A pass sees nothing of the attachment of the behaviour. -/
def Attachable (call : Caller) (host : Nat) : BehaviourLogic → Prop
  | .hooked attach _ _ _ => ∀ entity world, Unseen host world (call.hook attach (.entity entity))
  | .scripted .. => True

/-- The factory is a function of the script: a pass sees nothing of its commands, or of the attachment of
what it makes. -/
structure Tame (call : Caller) (host : Nat) (factory : Factory Operation) : Prop where
  commands : ∀ script world, (call.perform (factory.ask script).commands).Ends world fun result after =>
    result = .ok () ∧ view after host = view world host
  attachments : ∀ script hooks, (factory.ask script).offer = .made hooks → ∀ id label entity world,
    Unseen host world (call.hook ⟨id, label, hooks.attach.panicking⟩ (.entity entity))

/-- What is returned to whoever asks for a behaviour. -/
def Replies (call : Caller) (host : Nat) : Offer Operation → Except Raised (Option BehaviourLogic) → Prop
  | .declined, result => result = .ok none
  | .made _, result => ∃ logic, result = .ok (some logic) ∧ Attachable call host logic
  | .panic message, result => result = .error (.panicked message)

/-- Asking twice asks both lists in order. -/
@[simp] theorem ask_ask (view : View) (first later : List (Nat × String)) :
    (view.ask first).ask later = view.ask (first ++ later) := by
  simp [View.ask]

/-- Counting tells how many behaviours the factory had made. -/
theorem countMade_ends {id : Nat} {state : FactoryState} (held : world.factories[id]? = some state) :
    (countMade id).Ends world fun result after =>
      result = .ok state.made ∧ view after host = view world host := by
  unfold countMade
  rw [Run.ends_bind, Run.ends_get, Run.followed_ok]
  dsimp only
  rw [held]
  dsimp only
  rw [Run.ends_bind, Run.ends_modify, Run.followed_ok, Run.ends_pure]
  refine ⟨rfl, ?_⟩
  simp only [view, chainOf, look_counted held]
  rfl

/-- The hooks of a behaviour are numbered without being seen by a pass. -/
theorem behaviourHooks_ends (label : String) (hooks : BehaviourHooks Operation) :
    (behaviourHooks label hooks).Ends world fun result after =>
      (∃ id start update dispose, result = .ok (.hooked
        ⟨id, label ++ ".attach", hooks.attach.panicking⟩ start update dispose)) ∧
      view after host = view world host :=
  ⟨⟨_, _, _, _, rfl⟩, rfl⟩

/-- A factory is asked, and it replies with its offer. -/
theorem askFactory_replies {id : Nat} {factory : Factory Operation} (held : look world id = some factory)
    (known : id ∈ (view world host).binder.factories) (tame : Tame call host factory) :
    (askFactory call id script).Ends world fun result after =>
      Replies call host (factory.ask script).offer result ∧
        view after host = (view world host).ask [(id, script)] := by
  obtain ⟨state, found, rfl⟩ := Option.map_eq_some_iff.mp held
  unfold askFactory
  rw [Run.ends_bind, Run.ends_get, Run.followed_ok, found]
  dsimp only
  rw [Run.ends_bind, Run.ends_note, Run.followed_ok, Run.ends_bind]
  have noted : view (world.note (.asked id state.place script)) host =
      (view world host).ask [(id, script)] := by
    rw [view_note, asked?, if_pos (List.contains_iff_mem.mpr known)]
    rfl
  apply (tame.commands script _).mono
  intro result acted done
  obtain ⟨rfl, same⟩ := done
  have factories : ∃ held, acted.factories[id]? = some held := by
    have looked : look acted id = some state.factory := by
      rw [look_of_chain (chainOf_of_ask (same.trans noted)) known]
      exact held
    obtain ⟨held, found, -⟩ := Option.map_eq_some_iff.mp looked
    exact ⟨held, found⟩
  rw [Run.followed_ok]
  cases offered : (state.factory.ask script).offer with
  | declined => exact ⟨rfl, same.trans noted⟩
  | panic message => exact ⟨rfl, same.trans noted⟩
  | made hooks =>
      obtain ⟨held, found⟩ := factories
      dsimp only
      rw [Run.ends_bind]
      apply (countMade_ends found).mono
      intro result counted done
      obtain ⟨rfl, second⟩ := done
      rw [Run.followed_ok, Run.ends_bind]
      apply (behaviourHooks_ends _ hooks).mono
      intro result last done
      obtain ⟨⟨id, start, update, dispose, rfl⟩, third⟩ := done
      refine ⟨⟨_, rfl, ?_⟩, third.trans (second.trans (same.trans noted))⟩
      exact tame.attachments script hooks offered _ _

/-- A factory that is not there makes nothing. -/
theorem askFactory_missing {id : Nat} (missing : look world id = none) :
    (askFactory call id script).Ends world fun result after => result = .ok none ∧ after = world := by
  unfold askFactory
  rw [Run.ends_bind, Run.ends_get, Run.followed_ok, Option.map_eq_none_iff.mp missing]
  exact ⟨rfl, rfl⟩

/-- The chain replies with its decision. -/
theorem askChain_replies {ids : List Nat} (known : ids ⊆ (view world host).binder.factories)
    (tame : ∀ entry ∈ chainOf world ids, Tame call host entry.2) :
    (askChain call script ids).Ends world fun result after =>
      Replies call host (decision script (chainOf world ids)) result ∧
        view after host = (view world host).ask (consulted script (chainOf world ids)) := by
  induction ids generalizing world with
  | nil => exact ⟨rfl, rfl⟩
  | cons id rest ih =>
      obtain ⟨first, later⟩ := List.cons_subset.mp known
      unfold askChain
      rw [Run.ends_bind]
      cases held : look world id with
      | none =>
          have skipped : chainOf world (id :: rest) = chainOf world rest := by
            rw [chainOf, List.filterMap_cons, held]
            rfl
          rw [skipped] at tame ⊢
          apply (askFactory_missing held).mono
          intro result after done
          obtain ⟨rfl, rfl⟩ := done
          exact ih later tame
      | some factory =>
          have chained : chainOf world (id :: rest) = (id, factory) :: chainOf world rest := by
            rw [chainOf, List.filterMap_cons, held]
            rfl
          rw [chained] at tame ⊢
          apply (askFactory_replies held first (tame _ List.mem_cons_self)).mono
          intro result after done
          obtain ⟨replies, asked⟩ := done
          unfold decision consulted
          cases offered : (factory.ask script).offer with
          | made hooks =>
              rw [offered] at replies
              obtain ⟨logic, rfl, attachable⟩ := replies
              exact ⟨⟨logic, rfl, attachable⟩, asked⟩
          | panic message =>
              rw [offered] at replies
              obtain rfl := replies
              exact ⟨rfl, asked⟩
          | declined =>
              rw [offered] at replies
              obtain rfl := replies
              -- A factory that declines may have run commands, so the rest of the chain is asked in another world.
              have same : chainOf after rest = chainOf world rest :=
                chainOf_of_chain (chainOf_of_ask asked) later
              have known : rest ⊆ (view after host).binder.factories := by
                rw [asked]
                exact later
              have others := ih known (by
                rw [same]
                exact fun entry member => tame entry (List.mem_cons_of_mem _ member))
              rw [same, asked, ask_ask] at others
              exact others

/-- Whoever asks safely gets nothing where a factory panics. -/
def recover (entity : Entity) (script : String) : Raised → Run (Option BehaviourLogic)
  | .failed causes => do
      Run.report (factoryRecord entity script (.error causes))
      return none
  | .panicked message => do
      Run.report (factoryRecord entity script (.panicked message))
      return none
  | other => throw other

/-- A behaviour is created, or the fault of its factory is recovered from. -/
theorem createSafely_eq (call : Caller) (host : Nat) (chain : List Nat) (entity : Entity)
    (script : String) : createSafely call host chain entity script =
      tryCatch (create call host chain script) (recover entity script) := by
  funext world
  change (createSafely call host chain entity script).run.run world = (tryCatch _ _ : Run _).run.run world
  unfold createSafely
  rw [Stateful.run_bind, Stateful.run_tryCatch, Stateful.run_tryCatch, Stateful.run_bind]
  rcases (create call host chain script).run.run world with ⟨raised | made, after⟩
  · cases raised <;> rfl
  · rfl

/-- The library is asked last, and a panic of a factory makes nothing. -/
theorem createSafely_yields (entity : Entity)
    (tame : ∀ entry ∈ (view world host).chain, Tame call host entry.2) :
    Yields host world
      (createSafely call host (view world host).binder.factories entity script) fun made seen =>
        seen = (view world host).ask (consulted script (view world host).chain) ∧
          made.isSome = (view world host).resolves script ∧
          ∀ logic, made = some logic → Attachable call host logic := by
  unfold Yields
  rw [createSafely_eq, Run.ends_tryCatch]
  unfold create
  rw [Run.ends_bind]
  have known : (view world host).binder.factories ⊆ (view world host).binder.factories := List.Subset.refl _
  apply (askChain_replies known tame).mono
  intro result after done
  obtain ⟨replies, asked⟩ := done
  change view after host = (view world host).ask (consulted script (view world host).chain) at asked
  change Replies call host (decision script (view world host).chain) result at replies
  unfold View.resolves
  cases decided : decision script (view world host).chain with
  | made hooks =>
      rw [decided] at replies
      obtain ⟨logic, rfl, attachable⟩ := replies
      refine ⟨asked, rfl, fun other same => ?_⟩
      obtain rfl := Option.some.inj same
      exact attachable
  | panic message =>
      rw [decided] at replies
      obtain rfl := replies
      exact ⟨asked, rfl, by simp⟩
  | declined =>
      rw [decided] at replies
      obtain rfl := replies
      rw [Run.followed_ok]
      dsimp only
      rw [Run.ends_bind, Run.ends_runtime?, Run.followed_ok]
      have library := congrArg View.library asked
      change ((after.hosts[host]?).getD .core).runtime.map Runtime.behaviours =
        (view world host).library at library
      rw [← library]
      cases ((after.hosts[host]?).getD .core).runtime with
      | none => exact ⟨asked, rfl, by simp⟩
      | some runtime =>
          refine ⟨asked, by simp, ?_⟩
          intro logic made
          obtain ⟨unit, -, rfl⟩ := Option.map_eq_some_iff.mp made
          trivial

end ScriptHost.Session.Binding
