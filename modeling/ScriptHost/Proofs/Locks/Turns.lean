/-
This file follows a tick through the turns of its receivers, each of which is held while its hooks run.
-/
import ScriptHost.Proofs.Congruence.Scheduling
import ScriptHost.Proofs.Locks.Runs

namespace ScriptHost.Session.Locks

open Scheduler

variable {stirs : Nat → Nat → Prop} {depth : Nat} {opened : List Nat} {world middle after : World} {host id : Nat}
  {view : View} {post : Post}

/-- The hooks that a caller calls either leave everything as it was or end in an entangled tick. -/
def Attends (stirs : Nat → Nat → Prop) (depth : Nat) (call : Caller) : Prop :=
  ∀ opened world hooked arguments, Publishing hooked →
    (Stirring hooked → Scene stirs (hooked.id :: opened) (View.of world)) →
    (call.hook hooked arguments).Ends world (Tries stirs depth opened world)

/-- A post that is seen has its slot. -/
theorem slot_found (found : ((View.of world).outlook host).posts[id]? = some post) :
    ∃ slot, (world.registryOf host).slots[id]? = some slot ∧ Post.of slot = post := by
  rw [view_posts] at found
  exact Option.map_eq_some_iff.mp found

section Scripts

variable {unit : Script.CompiledUnit} {subject : Script.Value}

/-- A subject is written without being seen. -/
theorem setSubject_frees (found : ((View.of world).outlook host).posts[id]? = some post) (bare : post.hooks = []) :
    (setSubject host id unit subject).Ends world (Frees stirs depth opened (fun _ _ => True) world) := by
  obtain ⟨slot, held, rfl⟩ := slot_found found
  unfold Run.Ends
  rw [setSubject_run, held]
  rcases slot with ⟨⟨kind, logic⟩ | ⟨entity, script, logic⟩, started, phase, busy⟩
  · cases bare
  · refine ⟨.still ((view_setSlot _).trans ?_) rfl, trivial⟩
    have same : Post.of ⟨.behaviour entity script (.scripted unit subject), started, phase, busy⟩ =
        Post.of ⟨.behaviour entity script logic, started, phase, busy⟩ := congrArg (Post.mk busy phase) bare.symm
    rw [same]
    exact View.put_same found

/-- Scripts are run without being seen. -/
theorem outside_frees {α : Type} (act : Script.Outside → α × Script.Outside) :
    (Run.outside host act).Ends world (Frees stirs depth opened (fun _ _ => True) world) :=
  frees_run rfl (.leave world host _) trivial

/-- A script publishes nothing. -/
theorem callScript_tries (hook : ScriptHook) (arguments : List Script.Value)
    (found : ((View.of world).outlook host).posts[id]? = some post) (bare : post.hooks = []) :
    (callScript host id unit subject hook arguments).Ends world (Tries stirs depth opened world) := by
  unfold callScript
  split
  · have called : Plain (.scriptCalled host id hook) := trivial
    refine tries_step rfl (.note called world) ?_
    refine tries_bind (outside_frees _) fun told left clear _ => ?_
    have shown : ((View.of left).outlook host).posts[id]? = some post := by
      rw [clear.view]
      exact found
    refine tries_bind (setSubject_frees shown bare) fun _ after _ _ => ?_
    split
    · exact Clear.refl after
    · exact Clear.refl after
    · exact Clear.refl after
  · exact Clear.refl world

end Scripts

/-- The receiver shows as held. -/
def Held (view : View) (host id : Nat) (post : Post) (world : World) : Prop :=
  View.of world = view.put host id { post with busy := true }

section Held

variable {call : Caller} {logic : BehaviourLogic}

/-- Who is held stays so while the way is clear. -/
theorem Held.kept (held : Held view host id post world) (clear : Clear stirs opened world after) :
    Held view host id post after := clear.view.trans held

variable (scene : Scene stirs opened view) (serves : view.Serves host id post) (held : Held view host id post world)

include serves held

/-- A held receiver is busy. -/
theorem held_found : ((View.of world).outlook host).posts[id]? = some { post with busy := true } := by
  rw [held]
  exact View.put_found serves.found _

/-- Scripts may change what their behaviour keeps, but it stays a behaviour with the same hooks. -/
theorem currentLogic_frees (same : logicHooks logic = post.hooks) :
    (currentLogic host id logic).Ends world
      (Frees stirs depth opened (fun current _ => logicHooks current = post.hooks) world) := by
  refine frees_run rfl (.refl world) ?_
  obtain ⟨slot, found, shown⟩ := slot_found (held_found serves held)
  have hooks : tickHooks slot.receiver = post.hooks := congrArg Post.hooks shown
  change logicHooks (((world.registryOf host).slots[id]?.bind fun slot => logic? slot.receiver).getD logic) = _
  rw [found]
  rcases slot with ⟨⟨kind, logic'⟩ | ⟨entity, script, logic'⟩, started, phase, busy⟩
  · exact same
  · exact hooks

include scene

/-- A hook of the held receiver is called, and it may halt. -/
theorem hook_tries (attends : Attends stirs depth call) {hooked : Hooked} (among : hooked ∈ post.hooks)
    (arguments : Arguments) : (call.hook hooked arguments).Ends world (Tries stirs depth opened world) :=
  attends opened world hooked arguments (scene.publishing host id post serves hooked among) fun stirring =>
    held ▸ scene.hold serves among stirring

/-- A start is called, and it may halt. -/
theorem start_tries (attends : Attends stirs depth call) (entity : Entity) (script : String)
    (same : logicHooks logic = post.hooks) (signal : Tick.Signal) :
    (start call host id entity script logic signal).Ends world (Tries stirs depth opened world) := by
  cases logic with
  | hooked attach start update dispose => exact hook_tries scene serves held attends (same ▸ .head _) _
  | scripted unit subject => exact callScript_tries .start _ (held_found serves held) same.symm

/-- An update is called, and it may halt. -/
theorem update_tries (attends : Attends stirs depth call) (entity : Entity) (script : String)
    (same : logicHooks logic = post.hooks) (signal : Tick.Signal) :
    (update call host id entity script logic signal).Ends world (Tries stirs depth opened world) := by
  cases logic with
  | hooked attach start update dispose => exact hook_tries scene serves held attends (same ▸ .tail _ (.head _)) _
  | scripted unit subject => exact callScript_tries .update _ (held_found serves held) same.symm

/-- A behaviour has its turn, or it halts. -/
theorem runBehaviour_frees (attends : Attends stirs depth call) (entity : Entity) (script : String)
    (same : logicHooks logic = post.hooks) {slot : Slot} (own : Post.of slot = { post with busy := true })
    (signal : Tick.Signal) :
    (runBehaviour call host id entity script logic slot signal).Ends world
      (Frees stirs depth opened (fun _ _ => True) world) := by
  unfold runBehaviour
  split
  · exact frees_isolate (update_tries scene serves held attends entity script same signal)
  · have started : Clear stirs opened world
        (world.putRegistry host ((world.registryOf host).setSlot id { slot with started := true })) := by
      refine .still ((view_setSlot _).trans ?_) rfl
      have shown : Post.of { slot with started := true } = { post with busy := true } := own
      rw [shown]
      exact View.put_same (held_found serves held)
    have begun := held.kept started
    refine frees_step rfl started ?_
    refine frees_bind (frees_isolate (start_tries scene serves begun attends entity script same signal)) ?_
    intro fault after clear _
    cases fault with
    | some fault => exact frees_run rfl (.refl after) trivial
    | none =>
        refine frees_bind (currentLogic_frees serves (begun.kept clear) same) fun current last later same => ?_
        exact frees_isolate
          (update_tries scene serves ((begun.kept clear).kept later) attends entity script same signal)

/-- A receiver has its turn, or it halts. -/
theorem runReceiver_frees (attends : Attends stirs depth call) {slot : Slot}
    (own : Post.of slot = { post with busy := true }) (signal : Tick.Signal) :
    (runReceiver call host id slot signal).Ends world (Frees stirs depth opened (fun _ _ => True) world) := by
  have hooks : tickHooks slot.receiver = post.hooks := congrArg Post.hooks own
  unfold runReceiver
  cases shape : slot.receiver with
  | system kind logic =>
      rw [shape] at hooks
      exact frees_isolate (hook_tries scene serves held attends (hooks ▸ .head _) _)
  | behaviour entity script logic =>
      rw [shape] at hooks
      exact runBehaviour_frees scene serves held attends entity script hooks own signal

end Held

section Turn

variable {call : Caller} {slot : Slot}

/-- Looking at a slot changes nothing. -/
theorem slot?_run (found : (world.registryOf host).slots[id]? = some slot) :
    (slot? host id).run.run world = (.ok (some slot), world) :=
  congrArg (fun read => (Except.ok read, world)) found

/-- Only the busy mark of a slot changes. -/
theorem setBusy_run (found : (world.registryOf host).slots[id]? = some slot) (busy : Bool) :
    (setBusy host id busy).run.run world =
      (.ok (), world.putRegistry host ((world.registryOf host).setSlot id { slot with busy })) := by
  unfold setBusy
  rw [Stateful.run_bind, slot?_run found]
  rfl

/-- Nothing is left to do for a receiver that stays. -/
theorem finish_run (found : (world.registryOf host).slots[id]? = some slot) (live : slot.phase = .live) :
    (finish call host id).run.run world = (.ok (), world) := by
  have stays : ¬ (¬ slot.busy ∧ slot.phase = .leaving) := fun leaves => by
    rw [live] at leaves
    cases leaves.2
  unfold finish
  rw [Stateful.run_bind, slot?_run found]
  dsimp only
  rw [if_neg stays]
  rfl

/-- A receiver that was held is free again and shows as it did before. -/
theorem release_run (call : Caller) (serves : view.Serves host id post) (free : post.busy = false)
    (live : post.phase = .live) (held : Held view host id post world) (fault : Option Fault) :
    ∃ last, (do setBusy host id false; finish call host id; return fault).run.run world = (.ok fault, last) ∧
      View.of last = view ∧ last.journal = world.journal := by
  obtain ⟨slot, found, shown⟩ := slot_found (held_found serves held)
  have view_eq : View.of (world.putRegistry host ((world.registryOf host).setSlot id { slot with busy := false })) =
      view := by
    have released : Post.of { slot with busy := false } = post := by
      have phase := congrArg Post.phase shown
      have hooks := congrArg Post.hooks shown
      rw [← free]
      exact congrArg₂ (Post.mk post.busy) phase hooks
    rw [view_setSlot, released, held, View.put_put, View.put_same serves.found]
  refine ⟨_, ?_, view_eq, rfl⟩
  obtain ⟨later, foundToo, shownToo⟩ := slot_found (view_eq ▸ serves.found)
  have stays : later.phase = .live := (congrArg Post.phase shownToo).trans live
  rw [Stateful.run_bind, setBusy_run found]
  dsimp only
  rw [Stateful.run_bind, finish_run foundToo stays]
  rfl

/-- A receiver that is free is held for its turn, and then it is free again. -/
theorem turn_frees (attends : Attends stirs depth call) (scene : Scene stirs opened (View.of world))
    (registered : id ∈ (world.registryOf host).registered) (found : (world.registryOf host).slots[id]? = some slot)
    (free : slot.busy = false) (signal : Tick.Signal) :
    (turn call host id slot signal).Ends world (Frees stirs depth opened (fun _ _ => True) world) := by
  have serves : (View.of world).Serves host id (Post.of slot) := by
    refine ⟨registered, ?_⟩
    rw [view_posts, found]
    rfl
  have began : Plain (.turnBegan host id) := trivial
  unfold turn
  rw [free]
  refine frees_step rfl (.note began world) ?_
  have held : Held (View.of world) host id (Post.of slot)
      ((world.note (.turnBegan host id)).putRegistry host
        ((world.registryOf host).setSlot id { slot with busy := true })) := view_setSlot _
  have own : Post.of { slot with busy := true } = { Post.of slot with busy := true } := rfl
  have ran := runReceiver_frees scene serves held attends own signal
  rw [Run.ends_bind, Run.ends_setSlot, Run.followed_ok, Run.ends_bind]
  refine Run.Ends.mono ran fun result after ends => ?_
  rcases result with raised | fault
  · exact ends
  · obtain ⟨last, released, view, journal⟩ := release_run call serves free
      (scene.live host id _ serves) (held.kept ends.1) fault
    obtain ⟨news, added, balanced, untangled⟩ := ends.1.news
    rw [Run.followed_ok]
    unfold Run.Ends
    rw [released]
    refine ⟨⟨view, news, ?_, balanced, untangled⟩, trivial⟩
    unfold Adds
    rw [journal]
    exact added

end Turn

/-- All of these receivers had a free turn, or a hook that stirs the host was open before the first of them. -/
def Served (stirs : Nat → Nat → Prop) (depth : Nat) (opened : List Nat) (host : Nat) (ids : List Nat) (world : World) :
    Except Raised (Nat × Nat) → World → Prop
  | .ok _, after => Clear stirs opened world after ∧
      ∀ id ∈ ids, ∀ post, (View.of world).Serves host id post → post.busy = false
  | .error raised, after => Halts stirs depth opened world raised after ∨
      raised = .stuck ∧ (∃ news, Adds world after news) ∧ ∃ hook ∈ opened, stirs host hook

section RunAll

variable {call : Caller} {ids : List Nat}

/-- Who is served behind a clear part is served as a whole. -/
theorem served_since {body : Run (Nat × Nat)} (served : body.Ends middle (Served stirs depth opened host ids middle))
    (clear : Clear stirs opened world middle) : body.Ends middle (Served stirs depth opened host ids world) := by
  refine Run.Ends.mono served fun result after ends => ?_
  rcases result with raised | counts
  · refine ends.imp clear.halts fun ⟨stuck, ⟨late, added⟩, blamed⟩ => ⟨stuck, ?_, blamed⟩
    obtain ⟨early, addedFirst, -⟩ := clear.news
    exact ⟨early ++ late, addedFirst.append added⟩
  · exact ⟨clear.trans ends.1, fun id among post serves => ends.2 id among post (clear.view ▸ serves)⟩

/-- A free receiver is served before the others. -/
theorem served_cons {body : Run (Nat × Nat)} (served : body.Ends middle (Served stirs depth opened host ids world))
    (free : ∀ post, (View.of world).Serves host id post → post.busy = false) :
    body.Ends middle (Served stirs depth opened host (id :: ids) world) := by
  refine Run.Ends.mono served fun result after ends => ?_
  rcases result with raised | counts
  · exact ends
  · exact ⟨ends.1, List.forall_mem_cons.mpr ⟨free, ends.2⟩⟩

/-- A receiver that is held waits for itself, and the hook that holds it stirs the host. -/
theorem busy_serves {next : Option Fault → Run (Nat × Nat)} {slot : Slot}
    (scene : Scene stirs opened (View.of world)) (registered : id ∈ (world.registryOf host).registered)
    (found : (world.registryOf host).slots[id]? = some slot) (busy : slot.busy = true) (signal : Tick.Signal) :
    (turn call host id slot signal >>= next).Ends world (Served stirs depth opened host (id :: ids) world) := by
  have waits : (turn call host id slot signal).run.run world = (.error .stuck, world) := by
    unfold turn
    rw [busy]
    rfl
  have serves : (View.of world).Serves host id (Post.of slot) := by
    refine ⟨registered, ?_⟩
    rw [view_posts, found]
    rfl
  obtain ⟨hooked, among, inside, stirring⟩ := scene.held host id (Post.of slot) serves busy
  rw [Run.ends_bind]
  unfold Run.Ends
  rw [waits]
  refine .inr ⟨rfl, ⟨[], adds_nil rfl⟩, hooked.id, inside, ?_⟩
  exact (scene.stirs host hooked.id).mpr ⟨id, Post.of slot, serves, hooked, among, rfl, stirring⟩

/-- A turn of a free receiver opens and closes, or it halts in between. -/
theorem free_serves {next : Option Fault → Run (Nat × Nat)} {slot : Slot} (attends : Attends stirs depth call)
    (scene : Scene stirs opened (View.of world)) (registered : id ∈ (world.registryOf host).registered)
    (found : (world.registryOf host).slots[id]? = some slot) (free : slot.busy = false) (signal : Tick.Signal)
    (rest : ∀ fault after, Clear stirs opened world after →
      (next fault).Ends after (Served stirs depth opened host ids after)) :
    (turn call host id slot signal >>= next).Ends world (Served stirs depth opened host (id :: ids) world) := by
  have own (post : Post) (serves : (View.of world).Serves host id post) : post.busy = false := by
    have same := serves.found
    rw [view_posts, found] at same
    rw [← Option.some.inj same]
    exact free
  rw [Run.ends_bind]
  refine Run.Ends.mono (turn_frees attends scene registered found free signal) fun result after ends => ?_
  rcases result with raised | fault
  · exact .inl ends
  · exact served_cons (served_since (rest fault after ends.1) ends.1) own

/-- The receivers have their turns one after the other until one is held already. -/
theorem runAll_serves (attends : Attends stirs depth call) (host : Nat) (signal : Tick.Signal) (ids : List Nat)
    (counts : Nat × Nat) (scene : Scene stirs opened (View.of world)) :
    (runAll call host signal ids counts).Ends world (Served stirs depth opened host ids world) := by
  induction ids generalizing world counts with
  | nil => exact ⟨.refl world, nofun⟩
  | cons id rest ih =>
      obtain ⟨invoked, faults⟩ := counts
      -- A receiver that is not there or not listed has no turn, so nothing can wait for it.
      have skip (absent : ∀ post, ¬ (View.of world).Serves host id post) :
          (runAll call host signal rest (invoked, faults)).Ends world
            (Served stirs depth opened host (id :: rest) world) :=
        served_cons (ih (invoked, faults) scene) fun post serves => absurd serves (absent post)
      unfold runAll
      rw [Run.ends_bind, Run.ends_host, Run.followed_ok]
      have read : ((world.hosts[host]?).getD .core).registry.slot? id = (world.registryOf host).slots[id]? := rfl
      dsimp only
      rw [read]
      cases found : (world.registryOf host).slots[id]? with
      | none =>
          refine skip fun post serves => ?_
          have absent := serves.found
          rw [view_posts, found] at absent
          cases absent
      | some slot =>
          dsimp only
          split
          · next listed =>
              have registered : id ∈ (world.registryOf host).registered := List.contains_iff_mem.mp listed
              cases busy : slot.busy with
              | true => exact busy_serves scene registered found busy signal
              | false =>
                  refine free_serves attends scene registered found busy signal fun fault after clear => ?_
                  cases fault with
                  | none => exact ih _ (clear.view.symm ▸ scene)
                  | some fault =>
                      have plain : Plain (.reported (faultRecord slot.receiver signal fault)) := trivial
                      have told : Clear stirs opened after
                          (after.note (.reported (faultRecord slot.receiver signal fault))) := .note plain after
                      have served := served_since (ih (invoked + 1, faults + 1) (clear.view.symm ▸ scene)) told
                      exact served
          · next unlisted =>
              refine skip fun post serves => unlisted (List.contains_iff_mem.mpr serves.registered)

/-- The loose units hold nobody. -/
theorem runLoose_frees (signal : Tick.Signal) :
    (runLoose host signal).Ends world (Frees stirs depth opened (fun _ _ => True) world) := by
  refine frees_step rfl (.refl world) ?_
  split
  · exact frees_run rfl (.refl world) trivial
  · next runtime _ =>
      have began : Plain (.unitsBegan host runtime.scripts.active.names signal) := trivial
      exact frees_step rfl (.note began world) (outside_frees _)

/-- A tick is entangled from its beginning if it comes while a hook that stirs its host is open. -/
theorem tick_frees (attends : Attends stirs depth call) (signal : Tick.Signal)
    (scene : Scene stirs opened (View.of world)) :
    (tick call host signal).Ends world (Frees stirs depth opened (fun _ _ => True) world) := by
  unfold tick
  rw [Run.ends_bind, Run.ends_registry (scene.unlocked host), Run.followed_ok, Run.ends_bind, Run.ends_note,
    Run.followed_ok, Run.ends_bind]
  have served := runAll_serves attends host signal (world.registryOf host).registered (0, 0)
    (show Scene stirs opened (View.of (world.note (.tickBegan host signal))) from scene)
  refine Run.Ends.mono served fun result after ends => ?_
  rcases result with raised | counts
  · rcases ends with ⟨news, added, stops⟩ | ⟨stuck, ⟨news, added⟩, blamed⟩
    · exact ⟨.tickBegan host signal :: news, (adds_note world _).append added,
        stops.imp_left fun ⟨stuck, entangled⟩ => ⟨stuck, .inr entangled⟩⟩
    · exact ⟨.tickBegan host signal :: news, (adds_note world _).append added, .inl ⟨stuck, .inl blamed⟩⟩
  · obtain ⟨clear, free⟩ := ends
    -- A hook that stirs the host would hold a receiver, but all of them were free.
    have calm : ¬ ∃ hook ∈ opened, stirs host hook := by
      rintro ⟨number, inside, stirred⟩
      obtain ⟨id, post, serves, hooked, among, rfl, -⟩ := (scene.stirs host number).mp stirred
      have busy := scene.holding host id post serves hooked among inside
      rw [free id serves.registered post serves] at busy
      cases busy
    obtain ⟨news, added, balanced, untangled⟩ := clear.news
    have ticked : Clear stirs opened world after :=
      ⟨clear.view, .tickBegan host signal :: news, (adds_note world _).append added, .aside trivial balanced,
        not_or.mpr ⟨calm, untangled⟩⟩
    refine frees_since (frees_bind (runLoose_frees signal) fun units last _ _ => ?_) ticked
    exact frees_run rfl (.refl last) trivial

end RunAll

end ScriptHost.Session.Locks
