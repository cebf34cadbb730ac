/-
This file says what a scene leaves in the world between its ticks, and how runs go that do the same whatever stood
in the log before and whatever is drawn where no script draws.
-/
import ScriptHost.Proofs.Script.Trails
import ScriptHost.Proofs.Shutdown.Passages

namespace ScriptHost.Session

/-- These lines stood in the log of the host already, and there may be other draws to come. -/
def World.shifted (world : World) (host : Nat) (past : List String) (draws : Option Script.Draws) : World :=
  { world.putHost host { world.hostOf host with log := past ++ (world.hostOf host).log } with
    draws := draws.getD world.draws }

namespace Staging

/-- Ticks and passes of the binder change nothing of this. -/
structure Setting where
  runtime : Runtime
  binder : Binder

def Scripted (draws : Option Script.Draws) : Receiver → Prop
  | .behaviour _ _ (.scripted unit _) => Script.Spares (Script.Spared draws) unit.program.calls
  | _ => False

/-- No unit of the runtime draws where there are other draws, and none that it may compile does. -/
def Sparing (draws : Option Script.Draws) (tree : File.Tree) (runtime : Runtime) : Prop :=
  ∀ kind, (runtime.cache kind).Sparing (Script.Spared draws) tree

/-- Nothing but the scheduler of the host hears of ticks, all receivers are scripted, and at most the one that is
held is busy. No script draws where there are other draws. -/
structure Staged (draws : Option Script.Draws) (host : Nat) (setting : Setting) (held : Option Nat) (world : World) :
    Prop where
  present : host < world.hosts.length
  willing : world.engine.Willing
  heard : ∀ subscription ∈ world.bridge.typed.under .logicTick, subscription.handler = .source host
  listening : ∀ listening ∈ (world.hostOf host).source.listeners, listening.listener = .scheduler host none
  runtime : (world.hostOf host).runtime = some setting.runtime
  binder : (world.hostOf host).binder = setting.binder
  unlocked : (world.registryOf host).locked = false
  scripted : ∀ slot ∈ (world.registryOf host).slots, Scripted draws slot.receiver
  sparing : Sparing draws world.tree setting.runtime
  quiet : ∀ id slot, (world.registryOf host).slots[id]? = some slot → slot.busy = true → held = some id

variable {host id : Nat} {setting : Setting} {held : Option Nat} {past : List String}
  {draws : Option Script.Draws} {world after : World}
  {α β : Type}

/-- Without lines and without other draws the world is as it was. -/
theorem shifted_nil (present : host < world.hosts.length) : world.shifted host [] none = world := by
  have held : world.hosts[host]? = some (world.hostOf host) := by
    rw [World.hostOf, List.getElem?_eq_getElem present, Option.getD_some]
  obtain ⟨inside, same⟩ := List.getElem?_eq_some_iff.mp held
  change { world with hosts := world.hosts.set host (world.hostOf host) } = world
  rw [← same, List.set_getElem_self]

/-- A host may be put whatever was shifted. -/
theorem shifted_putHost {state : Host} : (world.shifted host past draws).putHost host state =
    { world.putHost host state with draws := draws.getD world.draws } := by
  simp [World.shifted, World.putHost]

section Shifting

variable (present : host < world.hosts.length)
include present

/-- Shifting adds lines to the log of the host. -/
theorem shifted_hostOf (past : List String) (draws : Option Script.Draws) :
    (world.shifted host past draws).hostOf host =
      { world.hostOf host with log := past ++ (world.hostOf host).log } := by
  change (world.putHost host _).hostOf host = _
  rw [World.putHost_hostOf present, if_pos rfl]

/-- Shifting leaves the registry as it is. -/
theorem shifted_registryOf (past : List String) (draws : Option Script.Draws) :
    (world.shifted host past draws).registryOf host = world.registryOf host := by
  change ((world.shifted host past draws).hostOf host).registry = _
  rw [shifted_hostOf present]
  rfl

/-- A new state of the host is shifted like the old one. -/
theorem putHost_shifted (past : List String) (draws : Option Script.Draws) (state : Host) :
    (world.putHost host state).shifted host past draws =
      (world.shifted host past draws).putHost host { state with log := past ++ state.log } := by
  rw [World.shifted, World.putHost_hostOf present, if_pos rfl, shifted_putHost]
  simp [World.putHost]

/-- Shifting and putting a registry go together. -/
theorem shifted_putRegistry {registry : Registry} : (world.shifted host past draws).putRegistry host registry =
    (world.putRegistry host registry).shifted host past draws := by
  change (world.shifted host past draws).putHost host
      { (world.shifted host past draws).hostOf host with registry } =
    (world.putHost host { world.hostOf host with registry }).shifted host past draws
  rw [putHost_shifted present, shifted_hostOf present]

/-- What a script leaves is shifted when it found a shifted world. -/
theorem shifted_leave (outside : Script.Outside) :
    (world.shifted host past draws).leave host (outside.shifted past draws) =
      (world.leave host outside).shifted host past draws := by
  have left : ∀ (world : World) (outside : Script.Outside), world.leave host outside =
      { world.putHost host { world.hostOf host with log := outside.log } with
        engine := outside.engine
        draws := outside.draws
        journal := (outside.records.map Entry.reported).reverse ++ world.journal } := fun _ _ => rfl
  rw [left, left, shifted_hostOf present]
  have moved := putHost_shifted present past draws { world.hostOf host with log := outside.log }
  exact congrArg (fun moved : World => { moved with
    engine := outside.engine
    draws := draws.getD outside.draws
    journal := (outside.records.map Entry.reported).reverse ++ world.journal }) moved.symm

end Shifting

namespace Staged

variable (staged : Staged draws host setting held world)
include staged

/-- What is not mentioned may change. -/
theorem beside (hosts : after.hosts = world.hosts) (tree : after.tree = world.tree) (willing : after.engine.Willing)
    (heard : ∀ subscription ∈ after.bridge.typed.under .logicTick, subscription.handler = .source host) :
    Staged draws host setting held after := by
  have same : ∀ host, after.hostOf host = world.hostOf host := fun host => by rw [World.hostOf, hosts]; rfl
  have registry : after.registryOf host = world.registryOf host := congrArg Host.registry (same host)
  constructor
  · rw [hosts]
    exact staged.present
  · exact willing
  · exact heard
  · rw [same]
    exact staged.listening
  · rw [same]
    exact staged.runtime
  · rw [same]
    exact staged.binder
  · rw [registry]
    exact staged.unlocked
  · rw [registry]
    exact staged.scripted
  · rw [tree]
    exact staged.sparing
  · rw [registry]
    exact staged.quiet

/-- The journal does not matter to a scene. -/
theorem journal (journal : List Entry) : Staged draws host setting held { world with journal } :=
  staged.beside rfl rfl staged.willing staged.heard

/-- Notes do not matter to a scene. -/
theorem note (entry : Entry) : Staged draws host setting held (world.note entry) := staged.journal _

/-- The host may change in what a scene does not depend on. -/
theorem putHost {state : Host} {other : Setting} {later : Option Nat}
    (listening : ∀ listening ∈ state.source.listeners, listening.listener = .scheduler host none)
    (runtime : state.runtime = some other.runtime) (binder : state.binder = other.binder)
    (unlocked : state.registry.locked = false) (scripted : ∀ slot ∈ state.registry.slots, Scripted draws slot.receiver)
    (sparing : Sparing draws world.tree other.runtime)
    (quiet : ∀ id slot, state.registry.slots[id]? = some slot → slot.busy = true → later = some id) :
    Staged draws host other later (world.putHost host state) := by
  have same : (world.putHost host state).hostOf host = state := by
    rw [World.putHost_hostOf staged.present, if_pos rfl]
  have registry : (world.putHost host state).registryOf host = state.registry := congrArg Host.registry same
  constructor
  · rw [World.putHost_length]
    exact staged.present
  · exact staged.willing
  · exact staged.heard
  · rw [same]
    exact listening
  · rw [same]
    exact runtime
  · rw [same]
    exact binder
  · rw [registry]
    exact unlocked
  · rw [registry]
    exact scripted
  · exact sparing
  · rw [registry]
    exact quiet

/-- A registry may be replaced by one of scripted receivers that are not busy. -/
theorem putRegistry {registry : Registry} {later : Option Nat} (unlocked : registry.locked = false)
    (scripted : ∀ slot ∈ registry.slots, Scripted draws slot.receiver)
    (quiet : ∀ id slot, registry.slots[id]? = some slot → slot.busy = true → later = some id) :
    Staged draws host setting later (world.putRegistry host registry) :=
  staged.putHost staged.listening staged.runtime staged.binder unlocked scripted staged.sparing quiet

/-- Slots are overwritten by slots of scripted receivers, and who is busy is held. -/
theorem setSlot (slot : Slot) (scripted : Scripted draws slot.receiver) (quiet : slot.busy = true → held = some id) :
    Staged draws host setting held (world.putRegistry host ((world.registryOf host).setSlot id slot)) := by
  have unlocked : ((world.registryOf host).setSlot id slot).locked = false := staged.unlocked
  apply staged.putRegistry unlocked
  · intro other member
    obtain old | rfl := List.mem_or_eq_of_mem_set member
    · exact staged.scripted other old
    · exact scripted
  · intro other found stands busy
    change ((world.registryOf host).slots.set id slot)[other]? = some found at stands
    rw [List.getElem?_set] at stands
    split at stands
    · next same =>
        subst same
        split at stands
        · cases stands
          exact quiet busy
        · cases stands
    · exact staged.quiet other found stands busy

/-- A new receiver is not busy. -/
theorem add {receiver : Receiver} (scripted : Scripted draws receiver) :
    Staged draws host setting held (world.putRegistry host ((world.registryOf host).add receiver).1) := by
  have unlocked : ((world.registryOf host).add receiver).1.locked = false := staged.unlocked
  apply staged.putRegistry unlocked
  · intro slot member
    obtain old | new := List.mem_append.mp member
    · exact staged.scripted slot old
    · rw [List.mem_singleton.mp new]
      exact scripted
  · intro id slot stands busy
    change ((world.registryOf host).slots ++ [_])[id]? = some slot at stands
    rw [List.getElem?_append] at stands
    split at stands
    · exact staged.quiet id slot stands busy
    · rw [List.mem_singleton.mp (List.mem_of_getElem? stands)] at busy
      cases busy

/-- What stands in the log does not matter. -/
theorem relog (log : List String) :
    Staged draws host setting held (world.putHost host { world.hostOf host with log }) :=
  staged.putHost staged.listening staged.runtime staged.binder staged.unlocked staged.scripted staged.sparing
    staged.quiet

/-- What a script leaves does not disturb the scene. -/
theorem leave {outside : Script.Outside} (willing : outside.engine.Willing) :
    Staged draws host setting held (world.leave host outside) :=
  (staged.relog outside.log).beside rfl rfl willing staged.heard

/-- A shifted scene stands as well. -/
theorem shifted (past : List String) : Staged draws host setting held (world.shifted host past draws) :=
  (staged.relog _).beside rfl rfl staged.willing staged.heard

/-- Where nothing else is drawn, nothing has to be spared. -/
theorem undrawn : Staged none host setting held world where
  present := staged.present
  willing := staged.willing
  heard := staged.heard
  listening := staged.listening
  runtime := staged.runtime
  binder := staged.binder
  unlocked := staged.unlocked
  scripted := by
    intro slot member
    have scripted := staged.scripted slot member
    rcases slot with ⟨kind | ⟨entity, script, _ | ⟨unit, subject⟩⟩, _⟩
    · exact scripted.elim
    · exact scripted.elim
    · exact Script.Spares.of_all Script.spared_none _
  sparing kind := (staged.sparing kind).mono fun name _ => Script.spared_none name
  quiet := staged.quiet

/-- Every receiver of a scene is scripted. -/
theorem slot {slot : Slot} (found : (world.registryOf host).slots[id]? = some slot) : Scripted draws slot.receiver :=
  staged.scripted slot (List.mem_of_getElem? found)

end Staged

/-- The run ends like this, and in a shifted world it ends in the same way and leaves the same behind, shifted. -/
structure Carries (host : Nat) (past : List String) (draws : Option Script.Draws) (world : World) (body : Run α)
    (good : Except Raised α → World → Prop) : Prop where
  ends : body.Ends world good
  also : body.run.run (world.shifted host past draws) =
    ((body.run.run world).1, (body.run.run world).2.shifted host past draws)

/-- The run returns. -/
def Surely (kept : α → World → Prop) : Except Raised α → World → Prop :=
  Run.Returns kept fun _ => False

/-- The run returns, or it is left early in a way that is taken up outside. -/
def Mildly (kept : World → Prop) (result : Except Raised α) (after : World) : Prop :=
  Shutdown.Calm result ∧ kept after

variable {body : Run α} {next : α → Run β} {kept : World → Prop}

/-- A run that surely returns has a value. -/
theorem Surely.cases {good : α → World → Prop} {result : Except Raised α} (surely : Surely good result after) :
    ∃ value, result = .ok value ∧ good value after := by
  obtain holds | ⟨-, never⟩ := Run.Returns.cases surely
  · exact holds
  · exact never.elim

/-- A run that surely returns does not raise anything. -/
theorem Surely.unraised {good : α → World → Prop} {raised : Raised} (surely : Surely good (.error raised) after) :
    False := by
  obtain ⟨_, absurd, _⟩ := surely.cases
  cases absurd

/-- A run that surely returns ends mildly. -/
theorem Surely.mildly {result : Except Raised α} (surely : Surely (fun _ => kept) result after) :
    Mildly kept result after := by
  obtain ⟨value, rfl, holds⟩ := surely.cases
  exact ⟨trivial, holds⟩

namespace Carries

/-- What a run carries may be weakened. -/
theorem mono {good better : Except Raised α → World → Prop} (carries : Carries host past draws world body good)
    (implies : ∀ result after, good result after → better result after) : Carries host past draws world body better :=
  ⟨carries.ends.mono implies, carries.also⟩

/-- A run is carried by its two parts, and an early end of the first ends both. -/
theorem bind {middle : Except Raised α → World → Prop} {good : Except Raised β → World → Prop}
    (first : Carries host past draws world body middle)
    (rest : ∀ value after, middle (.ok value) after → Carries host past draws after (next value) good)
    (left : ∀ raised after, middle (.error raised) after → good (.error raised) after) :
    Carries host past draws world (body >>= next) good := by
  obtain ⟨ends, also⟩ := first
  unfold Run.Ends at ends
  constructor
  · rw [Run.ends_bind, Run.Ends]
    revert ends
    rcases body.run.run world with ⟨raised | value, after⟩
    · exact left raised after
    · exact fun ends => (rest value after ends).ends
  · rw [Stateful.run_bind, Stateful.run_bind, also]
    revert ends
    rcases body.run.run world with ⟨raised | value, after⟩
    · exact fun _ => rfl
    · exact fun ends => (rest value after ends).also

/-- A handler carries on from wherever the run was left. -/
theorem tryCatch {handler : Raised → Run α} {middle good : Except Raised α → World → Prop}
    (first : Carries host past draws world body middle)
    (returned : ∀ value after, middle (.ok value) after → good (.ok value) after)
    (handled : ∀ raised after, middle (.error raised) after → Carries host past draws after (handler raised) good) :
    Carries host past draws world (tryCatch body handler) good := by
  obtain ⟨ends, also⟩ := first
  unfold Run.Ends at ends
  constructor
  · rw [Run.ends_tryCatch, Run.Ends]
    revert ends
    rcases body.run.run world with ⟨raised | value, after⟩
    · exact fun ends => (handled raised after ends).ends
    · exact returned value after
  · rw [Stateful.run_tryCatch, Stateful.run_tryCatch, also]
    revert ends
    rcases body.run.run world with ⟨raised | value, after⟩
    · exact fun ends => (handled raised after ends).also
    · exact fun _ => rfl

/-- An isolated run returns. -/
theorem isolate {body : Run Unit} (first : Carries host past draws world body (Mildly kept)) :
    Carries host past draws world (Run.isolate body) (Surely fun _ => kept) := by
  obtain ⟨ends, also⟩ := first
  unfold Run.Ends at ends
  constructor
  · unfold Run.Ends
    rw [Run.isolate_run]
    revert ends
    rcases body.run.run world with ⟨raised | value, after⟩
    · rintro ⟨mild, holds⟩
      cases raised with
      | failed causes => exact holds
      | panicked message => exact holds
      | stuck => exact mild.elim
      | exhausted => exact mild.elim
    · exact And.right
  · rw [Run.isolate_run, Run.isolate_run, also]

end Carries

/-- What comes after a run that returns decides how both end. -/
theorem Carries.then {good : α → World → Prop} {better : Except Raised β → World → Prop}
    (first : Carries host past draws world body (Surely good))
    (rest : ∀ value after, good value after → Carries host past draws after (next value) better) :
    Carries host past draws world (body >>= next) better := by
  apply first.bind
  · exact rest
  · exact fun _ _ surely => surely.unraised.elim

/-- Nobody takes up a run that returns. -/
theorem Carries.unhandled {good : α → World → Prop} {handler : Raised → Run α}
    (first : Carries host past draws world body (Surely good)) :
    Carries host past draws world (MonadExcept.tryCatch body handler) (Surely good) := by
  apply first.tryCatch
  · exact fun _ _ surely => surely
  · exact fun _ _ surely => surely.unraised.elim

/-- A run that only returns is carried. -/
theorem carries_pure {value : α} {good : Except Raised α → World → Prop} (holds : good (.ok value) world) :
    Carries host past draws world (pure value) good := ⟨holds, rfl⟩

/-- A run that only throws is carried. -/
theorem carries_throw {raised : Raised} {good : Except Raised α → World → Prop}
    (holds : good (.error raised) world) : Carries host past draws world (throw raised) good := ⟨holds, rfl⟩

/-- A run that surely returns gives the same value in the shifted world. -/
theorem Carries.returns {good : α → World → Prop} (carries : Carries host past draws world body (Surely good)) :
    ∃ value after, body.run.run world = (.ok value, after) ∧ good value after ∧
      body.run.run (world.shifted host past draws) = (.ok value, after.shifted host past draws) := by
  obtain ⟨value, returned, holds⟩ := carries.ends.cases
  refine ⟨value, _, Prod.ext returned rfl, holds, ?_⟩
  rw [carries.also, returned]

/-- A run that returns is finished. -/
theorem Carries.afterwards {finish : Run Unit} {middle good : α → World → Prop}
    (first : Carries host past draws world body (Surely middle))
    (finished : ∀ value after, middle value after → Carries host past draws after finish (Surely fun _ => good value)) :
    Carries host past draws world (Run.afterwards body finish) (Surely good) := by
  rw [Run.afterwards_eq]
  have both : Carries host past draws world (do let value ← body; finish; pure value) (Surely good) := by
    apply first.then
    intro value after holds
    apply (finished value after holds).then
    exact fun _ _ holds => carries_pure holds
  exact both.unhandled

/-- Whoever reads of the world what is not shifted goes on in the same way. -/
theorem carries_get {next : World → Run α} {good : Except Raised α → World → Prop}
    (same : next (world.shifted host past draws) = next world)
    (rest : Carries host past draws world (next world) good) :
    Carries host past draws world (get >>= next) good := by
  refine ⟨rest.ends, ?_⟩
  change (next (world.shifted host past draws)).run.run (world.shifted host past draws) = _
  rw [same]
  exact rest.also

/-- Whoever reads the host but not its log goes on in the same way. -/
theorem carries_host {next : Host → Run α} {good : Except Raised α → World → Prop}
    (present : host < world.hosts.length)
    (same : next { world.hostOf host with log := past ++ (world.hostOf host).log } = next (world.hostOf host))
    (rest : Carries host past draws world (next (world.hostOf host)) good) :
    Carries host past draws world (Run.host host >>= next) good := by
  refine ⟨rest.ends, ?_⟩
  change (next ((world.shifted host past draws).hostOf host)).run.run (world.shifted host past draws) = _
  rw [shifted_hostOf present, same]
  exact rest.also

/-- The run returns this and leaves this world, and from a shifted world it leaves the same one shifted. -/
structure Reaches (host : Nat) (past : List String) (draws : Option Script.Draws) (world : World) (body : Run α)
    (value : α) (after : World) : Prop where
  ran : body.run.run world = (.ok value, after)
  also : body.run.run (world.shifted host past draws) = (.ok value, after.shifted host past draws)

namespace Reaches

variable {value : α}

/-- A run that reaches a world is carried there. -/
theorem carries {good : Except Raised α → World → Prop} (reaches : Reaches host past draws world body value after)
    (holds : good (.ok value) after) : Carries host past draws world body good := by
  constructor
  · unfold Run.Ends
    rw [reaches.ran]
    exact holds
  · rw [reaches.also, reaches.ran]

/-- What follows a run is carried from the world that it reaches. -/
theorem step {good : Except Raised β → World → Prop} (reaches : Reaches host past draws world body value after)
    (rest : Carries host past draws after (next value) good) : Carries host past draws world (body >>= next) good := by
  constructor
  · unfold Run.Ends
    rw [Stateful.run_bind, reaches.ran]
    exact rest.ends
  · rw [Stateful.run_bind, Stateful.run_bind, reaches.also, reaches.ran]
    exact rest.also

/-- A note is written in both worlds. -/
theorem note (entry : Entry) : Reaches host past draws world (Run.note entry) () (world.note entry) := ⟨rfl, rfl⟩

/-- A record is reported in both worlds. -/
theorem report (record : TraceRecord) :
    Reaches host past draws world (Run.report record) () (world.note (.reported record)) := ⟨rfl, rfl⟩

/-- Records are reported in both worlds. -/
theorem reportAll (records : List TraceRecord) : Reaches host past draws world (Run.reportAll records) ()
    { world with journal := (records.map Entry.reported).reverse ++ world.journal } := ⟨rfl, rfl⟩

variable (present : host < world.hosts.length)
include present

/-- A slot is read in both worlds. -/
theorem slot? : Reaches host past draws world (Scheduler.slot? host id) (world.registryOf host).slots[id]? world where
  ran := rfl
  also := by
    rw [← shifted_registryOf present past draws]
    rfl

/-- A slot is set in both worlds. -/
theorem setSlot (slot : Slot) : Reaches host past draws world (Scheduler.setSlot host id slot) ()
    (world.putRegistry host ((world.registryOf host).setSlot id slot)) where
  ran := rfl
  also := by
    rw [← shifted_putRegistry present, ← shifted_registryOf present past draws]
    rfl

/-- A registry is set in both worlds. -/
theorem setRegistry (registry : Registry) : Reaches host past draws world (Run.setRegistry host registry) ()
    ((world.putRegistry host registry).note (.listed host registry.registered)) where
  ran := rfl
  also := by
    have moved : ∀ world : World, (Run.setRegistry host registry).run.run world =
        (.ok (), (world.putRegistry host registry).note (.listed host registry.registered)) := fun _ => rfl
    rw [moved, shifted_putRegistry present]
    rfl

/-- A host may be changed as long as its log is not read. -/
theorem modifyHost {change : Host → Host}
    (spares : ∀ state, change { state with log := past ++ state.log } =
      { change state with log := past ++ (change state).log }) :
    Reaches host past draws world (Run.modifyHost host change) ()
      (world.putHost host (change (world.hostOf host))) where
  ran := rfl
  also := by
    rw [putHost_shifted present, ← spares, ← shifted_hostOf present past draws]
    rfl

/-- A runtime is read in both worlds. -/
theorem runtime? : Reaches host past draws world (Run.runtime? host) (world.hostOf host).runtime world where
  ran := rfl
  also := by
    have same := congrArg Host.runtime (shifted_hostOf present past draws)
    exact congrArg (fun runtime => (Except.ok runtime, world.shifted host past draws)) same

/-- A registry that is not locked is read in both worlds. -/
theorem registry (unlocked : (world.registryOf host).locked = false) :
    Reaches host past draws world (Run.registry host) (world.registryOf host) world := by
  have read : ∀ world : World, (world.registryOf host).locked = false →
      (Run.registry host).run.run world = (.ok (world.registryOf host), world) := by
    intro world unlocked
    change (if (world.registryOf host).locked then throw Raised.stuck
      else pure (world.registryOf host) : Run Registry).run.run world = _
    rw [unlocked]
    rfl
  have same := shifted_registryOf present past draws
  refine ⟨read world unlocked, ?_⟩
  rw [read _ (by rw [same]; exact unlocked), same]

/-- A script leaves a shifted world behind as it would have left the other. -/
theorem outside {act : Script.Outside → α × Script.Outside}
    (trails : ∀ {outside other}, Script.Trails past draws outside other →
      (act outside).1 = (act other).1 ∧ Script.Trails past draws (act outside).2 (act other).2)
    (willing : world.engine.Willing) :
    Reaches host past draws world (Run.outside host act)
      (act ⟨world.engine, world.draws, (world.hostOf host).log, []⟩).1
      (world.leave host (act ⟨world.engine, world.draws, (world.hostOf host).log, []⟩).2) where
  ran := rfl
  also := by
    have seen : Script.Trails past draws ⟨world.engine, world.draws, (world.hostOf host).log, []⟩
        ⟨world.engine, draws.getD world.draws, past ++ (world.hostOf host).log, []⟩ := ⟨rfl, willing⟩
    obtain ⟨values, left⟩ := trails seen
    have run : (Run.outside host act).run.run (world.shifted host past draws) =
        (.ok (act ⟨world.engine, draws.getD world.draws, ((world.shifted host past draws).hostOf host).log, []⟩).1,
          (world.shifted host past draws).leave host
            (act ⟨world.engine, draws.getD world.draws, ((world.shifted host past draws).hostOf host).log, []⟩).2) :=
      rfl
    rw [run, shifted_hostOf present, ← values, left.same, shifted_leave present]

end Reaches

end Staging

end ScriptHost.Session
