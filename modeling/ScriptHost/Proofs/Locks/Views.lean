/-
This file says what a world shows of the receivers that ticks call, and which of them are held while their hooks run.
-/
import ScriptHost.Proofs.Congruence.Holding

namespace ScriptHost.Session.Locks

open Event (Subscription)

/-- Events are all that such a command brings about. -/
inductive Publishes : Command Operation → Prop
  | publish (title host : String) (event : Event.Builtin) : Publishes ⟨title, host, .publish event⟩
  | publishRaw (title host event : String) (payload : Event.Payload) :
      Publishes ⟨title, host, .publishRaw event payload⟩

def Publishing (hooked : Hooked) : Prop :=
  ∀ calls, ∀ command ∈ (hooked.hook.turn calls).commands, Publishes command

/-- Some call of the hook carries out a command. -/
def Stirring (hooked : Hooked) : Prop :=
  ∃ calls, (hooked.hook.turn calls).commands ≠ []

def logicHooks : BehaviourLogic → List Hooked
  | .hooked _ start update _ => [start, update]
  | .scripted .. => []

/-- These hooks are called in a tick. -/
def tickHooks : Receiver → List Hooked
  | .system _ logic => [logic.onTick]
  | .behaviour _ _ logic => logicHooks logic

/-- This is what shows of a slot. -/
structure Post where
  busy : Bool
  phase : Schedule.Phase
  hooks : List Hooked

def Post.of (slot : Slot) : Post := ⟨slot.busy, slot.phase, tickHooks slot.receiver⟩

/-- This is what shows of a host. -/
structure Outlook where
  registered : List Nat
  locked : Bool
  posts : List Post
  listeners : List (Tick.Listening Listener)

def Outlook.of (host : Host) : Outlook :=
  ⟨host.registry.registered, host.registry.locked, host.registry.slots.map Post.of, host.source.listeners⟩

structure View where
  outlook : Nat → Outlook
  typed : Event.Table Event.Kind Handler
  raw : Event.Table String Handler

def View.of (world : World) : View :=
  ⟨fun host => .of (world.hostOf host), world.bridge.typed, world.bridge.raw⟩

namespace View

variable {view : View} {host id place other : Nat} {post : Post}

def put (view : View) (host id : Nat) (post : Post) : View :=
  { view with
    outlook := fun place =>
      if place = host then { view.outlook host with posts := (view.outlook host).posts.set id post }
      else view.outlook place }

/-- The receiver is called whenever the host ticks. -/
structure Serves (view : View) (host id : Nat) (post : Post) : Prop where
  registered : id ∈ (view.outlook host).registered
  found : (view.outlook host).posts[id]? = some post

/-- The hook is called when an event or a tick is heard. -/
def Hears (view : View) (hooked : Hooked) : Prop :=
  (∃ kind, ∃ subscription ∈ view.typed.under kind, subscription.handler = .hook hooked) ∨
    (∃ name, ∃ subscription ∈ view.raw.under name, subscription.handler = .hook hooked) ∨
      ∃ host, ∃ listening ∈ (view.outlook host).listeners, listening.listener = .hook hooked

/-- The number is that of a hook that a receiver of the host has for its ticks and that carries out commands. -/
def Stirs (view : View) (host number : Nat) : Prop :=
  ∃ id post, view.Serves host id post ∧ ∃ hooked ∈ post.hooks, hooked.id = number ∧ Stirring hooked

/-- The later of two posts stands. -/
theorem put_put (view : View) (host id : Nat) (post later : Post) :
    (view.put host id post).put host id later = view.put host id later := by
  unfold put
  simp only [if_true, List.set_set, View.mk.injEq, and_true]
  funext place
  split <;> rfl

/-- Putting what stands there changes nothing. -/
theorem put_same (found : (view.outlook host).posts[id]? = some post) : view.put host id post = view := by
  have same : (view.outlook host).posts.set id post = (view.outlook host).posts := by
    obtain ⟨inside, rfl⟩ := List.getElem?_eq_some_iff.mp found
    exact List.set_getElem_self inside
  unfold put
  rw [same]
  have all : (fun place => if place = host then view.outlook host else view.outlook place) = view.outlook := by
    funext place
    split
    · next here => rw [here]
    · rfl
  exact congrArg (fun outlook => { view with outlook }) all

/-- A post that was put is found. -/
theorem put_found {former : Post} (found : (view.outlook host).posts[id]? = some former) (post : Post) :
    ((view.put host id post).outlook host).posts[id]? = some post := by
  obtain ⟨inside, -⟩ := List.getElem?_eq_some_iff.mp found
  simp [put, inside]

/-- Other posts stay as they are. -/
theorem put_other (apart : ¬ (place = host ∧ other = id)) (post : Post) :
    ((view.put host id post).outlook place).posts[other]? = (view.outlook place).posts[other]? := by
  unfold put
  dsimp only
  split
  · next here =>
      subst here
      exact List.getElem?_set_ne fun same => apart ⟨rfl, same.symm⟩
  · rfl

/-- Putting a post registers nobody. -/
@[simp] theorem put_registered (place : Nat) :
    ((view.put host id post).outlook place).registered = (view.outlook place).registered := by
  unfold put
  dsimp only
  split
  · next here => rw [here]
  · rfl

/-- Putting a post locks nothing. -/
@[simp] theorem put_locked (place : Nat) :
    ((view.put host id post).outlook place).locked = (view.outlook place).locked := by
  unfold put
  dsimp only
  split
  · next here => rw [here]
  · rfl

/-- Putting a post leaves the listeners as they are. -/
@[simp] theorem put_listeners (place : Nat) :
    ((view.put host id post).outlook place).listeners = (view.outlook place).listeners := by
  unfold put
  dsimp only
  split
  · next here => rw [here]
  · rfl

/-- A post that is put is the new one, or one of another place. -/
theorem Serves.of_put {their : Post} (serves : (view.put host id post).Serves place other their) :
    (place = host ∧ other = id) ∧ their = post ∨ ¬ (place = host ∧ other = id) ∧ view.Serves place other their := by
  obtain ⟨registered, found⟩ := serves
  rw [put_registered] at registered
  by_cases same : place = host ∧ other = id
  · refine .inl ⟨same, ?_⟩
    obtain ⟨rfl, rfl⟩ := same
    simp only [put, if_true] at found
    obtain ⟨inside, same⟩ := List.getElem?_eq_some_iff.mp found
    rw [List.getElem_set_self] at same
    exact same.symm
  · rw [put_other same] at found
    exact .inr ⟨same, registered, found⟩

/-- A receiver is served under its new post. -/
theorem Serves.put {former : Post} (serves : view.Serves host id former) (post : Post) :
    (view.put host id post).Serves host id post := by
  refine ⟨?_, put_found serves.found post⟩
  rw [put_registered]
  exact serves.registered

/-- Other receivers are served as before. -/
theorem Serves.put_other {their : Post} (serves : view.Serves place other their) (apart : ¬ (place = host ∧ other = id))
    (post : Post) : (view.put host id post).Serves place other their := by
  refine ⟨?_, ?_⟩
  · rw [put_registered]
    exact serves.registered
  · rw [View.put_other apart]
    exact serves.found

/-- Putting a post leaves the subscribers as they are. -/
theorem hears_put (hooked : Hooked) : (view.put host id post).Hears hooked ↔ view.Hears hooked := by
  unfold Hears
  simp only [put_listeners]
  rfl

/-- Whoever serves has served before, perhaps with another post. -/
theorem Serves.former {former their : Post} (serves : view.Serves host id former)
    (standing : (view.put host id post).Serves place other their) (same : post.hooks = former.hooks) :
    ∃ before, view.Serves place other before ∧ their.hooks = before.hooks := by
  obtain ⟨⟨rfl, rfl⟩, rfl⟩ | ⟨-, standing⟩ := standing.of_put
  · exact ⟨former, serves, same⟩
  · exact ⟨their, standing, rfl⟩

/-- A post may change without changing its hooks. -/
theorem stirs_put {former : Post} (serves : view.Serves host id former) (post : Post)
    (same : post.hooks = former.hooks) (place number : Nat) :
    (view.put host id post).Stirs place number ↔ view.Stirs place number := by
  constructor
  · rintro ⟨other, their, standing, stirring⟩
    obtain ⟨before, standing, same⟩ := serves.former standing same
    exact ⟨other, before, standing, same ▸ stirring⟩
  · rintro ⟨other, their, standing, stirring⟩
    by_cases own : place = host ∧ other = id
    · obtain ⟨rfl, rfl⟩ := own
      obtain rfl : their = former := Option.some.inj (standing.found.symm.trans serves.found)
      exact ⟨other, post, serves.put post, same ▸ stirring⟩
    · exact ⟨other, their, standing.put_other own post, stirring⟩

end View

/-- These hooks are open, and the receivers that they belong to are held. Nobody else is held. -/
structure Scene (stirs : Nat → Nat → Prop) (opened : List Nat) (view : View) : Prop where
  stirs : ∀ host number, stirs host number ↔ view.Stirs host number
  unlocked : ∀ host, (view.outlook host).locked = false
  live : ∀ host id post, view.Serves host id post → post.phase = .live
  held : ∀ host id post, view.Serves host id post → post.busy = true →
    ∃ hooked ∈ post.hooks, hooked.id ∈ opened ∧ Stirring hooked
  holding : ∀ host id post, view.Serves host id post → ∀ hooked ∈ post.hooks, hooked.id ∈ opened → post.busy = true
  publishing : ∀ host id post, view.Serves host id post → ∀ hooked ∈ post.hooks, Publishing hooked
  heard : ∀ hooked, view.Hears hooked → Publishing hooked
  apart : ∀ host id post, view.Serves host id post → ∀ hooked ∈ post.hooks,
    (∀ other, view.Hears other → other.id ≠ hooked.id) ∧
    ∀ place other their, view.Serves place other their → ∀ another ∈ their.hooks, another.id = hooked.id →
      place = host ∧ other = id

namespace Scene

variable {stirs : Nat → Nat → Prop} {opened : List Nat} {view : View} {host id : Nat} {post : Post}
  (scene : Scene stirs opened view)

include scene

/-- A hook that hears of an event is open beside the hooks of the receivers. -/
theorem hear {hooked : Hooked} (hears : view.Hears hooked) : Scene stirs (hooked.id :: opened) view where
  stirs := scene.stirs
  unlocked := scene.unlocked
  live := scene.live
  held host id post serves busy := by
    obtain ⟨own, among, inside, stirring⟩ := scene.held host id post serves busy
    exact ⟨own, among, .tail _ inside, stirring⟩
  holding host id post serves own among inside := by
    rcases List.mem_cons.mp inside with same | inside
    · exact absurd same.symm ((scene.apart host id post serves own among).1 hooked hears)
    · exact scene.holding host id post serves own among inside
  publishing := scene.publishing
  heard := scene.heard
  apart := scene.apart

/-- A receiver is held while one of its hooks is open. -/
theorem hold (serves : view.Serves host id post) {hooked : Hooked} (among : hooked ∈ post.hooks)
    (stirring : Stirring hooked) :
    Scene stirs (hooked.id :: opened) (view.put host id { post with busy := true }) where
  stirs place number :=
    (scene.stirs place number).trans (View.stirs_put serves { post with busy := true } rfl place number).symm
  unlocked place := by
    rw [View.put_locked]
    exact scene.unlocked place
  live place other their standing := by
    obtain ⟨⟨rfl, rfl⟩, rfl⟩ | ⟨-, standing⟩ := standing.of_put
    · exact scene.live place other post serves
    · exact scene.live place other their standing
  held place other their standing busy := by
    obtain ⟨-, rfl⟩ | ⟨-, standing⟩ := standing.of_put
    · exact ⟨hooked, among, .head _, stirring⟩
    · obtain ⟨own, inside, open_, stirring⟩ := scene.held place other their standing busy
      exact ⟨own, inside, .tail _ open_, stirring⟩
  holding place other their standing own inside openToo := by
    obtain ⟨-, rfl⟩ | ⟨apart, standing⟩ := standing.of_put
    · rfl
    · rcases List.mem_cons.mp openToo with same | openToo
      · exact absurd ((scene.apart host id post serves hooked among).2 place other their standing own inside same) apart
      · exact scene.holding place other their standing own inside openToo
  publishing place other their standing := by
    obtain ⟨before, standing, same⟩ := serves.former standing rfl
    exact same ▸ scene.publishing place other before standing
  heard other hears := scene.heard other ((View.hears_put other).mp hears)
  apart place other their standing := by
    obtain ⟨before, standing, same⟩ := serves.former standing rfl
    rw [same]
    intro own among
    obtain ⟨unheard, alone⟩ := scene.apart place other before standing own among
    refine ⟨fun heard hears => unheard heard ((View.hears_put heard).mp hears), ?_⟩
    intro place' other' their' standing'
    obtain ⟨before', standing', same'⟩ := serves.former standing' rfl
    rw [same']
    exact alone place' other' before' standing'

end Scene

section Worlds

variable {world after : World} {host id : Nat}

/-- What is not mentioned is not seen. -/
theorem view_beside (hosts : after.hosts = world.hosts) (typed : after.bridge.typed = world.bridge.typed)
    (raw : after.bridge.raw = world.bridge.raw) : View.of after = View.of world := by
  unfold View.of World.hostOf
  rw [hosts, typed, raw]

/-- A host may be replaced by one that looks the same. -/
theorem view_putHost {state : Host} (same : Outlook.of state = Outlook.of (world.hostOf host)) :
    View.of (world.putHost host state) = View.of world := by
  have outlook (place : Nat) :
      Outlook.of ((world.putHost host state).hostOf place) = Outlook.of (world.hostOf place) := by
    obtain kept | ⟨rfl, changed⟩ := world.hostOf_putHost host state place
    · rw [kept]
    · rw [changed, same]
  exact congrArg (fun outlook => View.mk outlook world.bridge.typed world.bridge.raw) (funext outlook)

/-- What scripts leave is not seen. -/
theorem view_leave (outside : Script.Outside) : View.of (world.leave host outside) = View.of world :=
  view_putHost (Eq.refl (Outlook.of { world.hostOf host with log := outside.log }))

/-- Posts are seen where slots stand. -/
theorem view_posts (host id : Nat) :
    ((View.of world).outlook host).posts[id]? = ((world.registryOf host).slots[id]?).map Post.of :=
  List.getElem?_map ..

/-- A slot that is set shows as its post. -/
theorem outlook_setSlot (state : Host) (id : Nat) (slot : Slot) :
    Outlook.of { state with registry := state.registry.setSlot id slot } =
      { Outlook.of state with posts := (Outlook.of state).posts.set id (Post.of slot) } := by
  simp only [Outlook.of, Schedule.Registry.setSlot, List.map_set]

/-- A slot that is put in a registry shows as its post. -/
theorem view_setSlot (slot : Slot) :
    View.of (world.putRegistry host ((world.registryOf host).setSlot id slot)) =
      (View.of world).put host id (Post.of slot) := by
  have outlook (place : Nat) :
      (View.of (world.putRegistry host ((world.registryOf host).setSlot id slot))).outlook place =
        ((View.of world).put host id (Post.of slot)).outlook place := by
    by_cases present : host < world.hosts.length
    · have state := World.putHost_hostOf present
        { world.hostOf host with registry := (world.registryOf host).setSlot id slot } place
      refine (congrArg Outlook.of state).trans ?_
      unfold View.put
      dsimp only
      split
      · exact outlook_setSlot (world.hostOf host) id slot
      · rfl
    · -- Nothing is put where there is no host, and a host that is not there has no posts.
      have core : world.hostOf host = .core := by
        rw [World.hostOf, List.getElem?_eq_none (Nat.le_of_not_lt present)]
        rfl
      have still : (world.putRegistry host ((world.registryOf host).setSlot id slot)).hosts = world.hosts :=
        List.set_eq_of_length_le (Nat.le_of_not_lt present)
      rw [view_beside still rfl rfl]
      unfold View.put
      dsimp only
      split
      · next here =>
          rw [here]
          simp only [View.of, core]
          rfl
      · rfl
  exact congrArg (fun outlook => View.mk outlook world.bridge.typed world.bridge.raw) (funext outlook)

end Worlds

end ScriptHost.Session.Locks
