/-
This file follows receivers into a registry.
-/
import ScriptHost.Proofs.Shutdown.Finishing

namespace ScriptHost.Session.Shutdown

open World (registryOf)

variable {host place id : Nat} {call : Caller} {origin world after : World} {outline : Outline}

/-- A receiver that has just come is not busy, nor does it make another one so. -/
theorem busy_add (index : Nat) : outline.add.busy index = outline.busy index := by
  unfold Outline.busy Outline.add
  dsimp only
  rw [List.getElem?_append]
  split
  · rfl
  · next outside =>
      rw [List.getElem?_eq_none (Nat.le_of_not_lt outside), List.getElem?_singleton]
      split <;> rfl

/-- A receiver that has just come is registered, so it does not hang about. -/
theorem loose_add {index : Nat} (loose : outline.add.Loose index) : outline.Loose index := by
  obtain ⟨out, phase⟩ := loose
  simp only [Outline.add, List.mem_append, List.mem_singleton, not_or] at out phase
  refine ⟨out.1, ?_⟩
  rw [List.getElem?_append] at phase
  split at phase
  · exact phase
  · next outside =>
      have beyond : index - outline.slots.length ≠ 0 := by
        have different := out.2
        omega
      rw [List.getElem?_singleton, if_neg beyond] at phase
      cases phase

/-- A body that surely returns goes on to what comes after it. -/
theorem passes_through {α β : Type} {body : Run α} {next : α → Run β} (sure : Sure body)
    (inner : Passes host [] world world body) (onward : Onward host [] origin world)
    (rest : ∀ value middle, Passage host [] True world middle → Passes host [] origin middle (next value)) :
    Passes host [] origin world (body >>= next) := by
  have wrecked := sure world
  unfold Passes
  rw [Run.ends_bind]
  unfold Passes Run.Ends at inner
  unfold Run.Ends
  revert inner wrecked
  rcases body.run.run world with ⟨raised | value, middle⟩
  · intro passage wrecked
    exact ⟨passage.sound, onward.trans passage.onward, fun mild => absurd mild (wrecked raised rfl)⟩
  · intro passage _
    exact rest value middle passage

/-- The lock of another registry is no matter of the host. -/
theorem locked_elsewhere (sound : Sound host world) (present : place < world.hosts.length) (locked : Bool)
    (other : place ≠ host) :
    Passage host [] True world (world.written place { world.registryOf place with locked } []) :=
  (idles_elsewhere present other (by simp)).passage sound

/-- The lock is closed and opened again. -/
theorem unlocked_here (sound : Sound place world) (present : place < world.hosts.length)
    (unlocked : (world.registryOf place).locked = false)
    (onward : Onward place [] world (world.written place { world.registryOf place with locked := true } []))
    (passage : Passage place [] True (world.written place { world.registryOf place with locked := true } []) after) :
    Passage place [] True world (after.written place { after.registryOf place with locked := false } []) := by
  have outline : outlineOf (world.written place { world.registryOf place with locked := true } []) place =
      { outlineOf world place with locked := true } := written_outline present
  have settled := passage.settled trivial
  have inside := passage.present (by rw [written_length]; exact present)
  have strict : Strict place (outlineOf after place) after.journal := by
    apply settled.strict
    rw [outline]
    exact sound.tidy.strict unlocked
  have opened : Passage place [] False after
      (after.written place { after.registryOf place with locked := false } []) :=
    written_here passage.sound inside (by simp) (passage.sound.tidy.lock fun _ => strict)
      passage.sound.hushed (Nat.le_refl _) (fun _ _ out => out) False.elim
  have last : outlineOf (after.written place { after.registryOf place with locked := false } [])
      place = { outlineOf after place with locked := false } := written_outline inside
  refine ⟨opened.sound, (onward.trans passage.onward).trans opened.onward, fun _ => ?_⟩
  refine ⟨?_, fun index => ?_, fun index loose => ?_, fun _ => ?_⟩
  · rw [last]
    exact unlocked.symm
  · have busy := settled.busy index
    rw [outline] at busy
    rw [last]
    exact busy
  · rw [last] at loose
    have earlier := settled.loose index loose
    rw [outline] at earlier
    exact earlier
  · rw [last]
    exact strict

/-- A registry that was locked for a while stands as it did before. -/
theorem locked_passes {α β : Type} {body : Run α} {next : α → Run β} (sound : Sound host world)
    (present : place < world.hosts.length) (unlocked : (world.registryOf place).locked = false)
    (sure : Sure body) (inner : ∀ middle, Sound host middle → Passes host [] middle middle body)
    (rest : ∀ value after, Passage host [] True world after → Passes host [] world after (next value)) :
    Passes host [] world world (do
      Run.modifyRegistry place fun registry => { registry with locked := true }
      let value ← body
      Run.modifyRegistry place fun registry => { registry with locked := false }
      next value) := by
  unfold Passes
  rw [Run.ends_bind, Run.ends_modifyRegistry, Run.followed_ok]
  by_cases here : place = host
  · subst here
    have shut : Passage place [] False world
        (world.written place { world.registryOf place with locked := true } []) :=
      written_here sound present (by simp) (sound.tidy.lock (by simp)) sound.hushed (Nat.le_refl _)
        (fun _ _ out => out) False.elim
    exact passes_through sure (inner _ shut.sound) shut.onward fun value middle passage =>
      rest value _ (unlocked_here sound present unlocked shut.onward passage)
  · have shut := locked_elsewhere sound present true here
    refine passes_through sure (inner _ shut.sound) shut.onward fun value middle passage => rest value _ ?_
    have whole := shut.trans passage
    exact whole.trans (locked_elsewhere whole.sound (whole.present present) false here)

/-- A behaviour is attached to an unlocked registry as any run goes, its hooks included. -/
theorem attach_passes (careful : Careful host call) (entity : Entity) (script : String)
    (logic : BehaviourLogic) (sound : Sound host world) (present : place < world.hosts.length)
    (unlocked : (world.registryOf place).locked = false) :
    Passes host [] world world (Scheduler.attach call place entity script logic) := by
  cases logic with
  | scripted unit subject => exact passes_pure (.refl sound) ()
  | hooked attach start update dispose =>
      apply locked_passes sound present unlocked (sure_isolate _)
      · exact fun middle sound => (careful.hook _ _ middle sound).isolate
      · exact fun fault after passage => told_passes fault _ passage

/-- A receiver that comes too late is finalized at once, without having been accepted. -/
theorem reject_passes (careful : Careful host call) (receiver : Receiver)
    (passage : Passage host [] True origin world) :
    Passes host [] origin world (Scheduler.reject call receiver) := by
  rcases receiver with ⟨kind, logic⟩ | ⟨entity, script, _ | ⟨unit, subject⟩⟩
  · exact passes_pure passage ()
  · apply (careful.calls _ _ passage).isolate.bind
    intro fault after passage
    exact told_passes fault _ passage
  · exact passes_pure passage ()

/-- A receiver that comes is live, registered and not busy. -/
theorem add_passage (sound : Sound host world) (present : place < world.hosts.length)
    (receiver : Receiver) : Passage host [] True world (world.written place
      ((world.registryOf place).add receiver).1
      [.accepted place (world.registryOf place).slots.length,
        .listed place ((world.registryOf place).add receiver).1.registered]) := by
  by_cases here : place = host
  · subst here
    have outline : ∀ entries : List Entry,
        outlineOf (world.written place ((world.registryOf place).add receiver).1 entries) place =
          (outlineOf world place).add := by
      intro entries
      rw [written_outline present, of_add]
      rfl
    have silent : ∀ ids, (Entry.listed place ids).telling place = false := fun _ => rfl
    have tidy := (sound.tidy.silent (silent ((world.registryOf place).add receiver).1.registered)).add
    have length : (outlineOf world place).slots.length = (world.registryOf place).slots.length := of_length
    rw [length] at tidy
    apply written_here sound present (by simp [Entry.timeless])
    · rw [of_add]
      exact tidy
    · exact (sound.hushed.cons (by simp)).cons (by simp)
    · simp [Schedule.Registry.add]
    · intro id inside out
      have different : id ≠ (world.registryOf place).slots.length := Nat.ne_of_lt inside
      simp [Schedule.Registry.add, out, different]
    · intro _
      refine ⟨by rw [outline]; rfl, fun index => ?_, fun index loose => ?_, fun strict => ?_⟩
      · rw [outline]
        exact busy_add index
      · rw [outline] at loose
        exact loose_add loose
      · rw [outline]
        intro id member
        have fresh : ∀ index, ShutOut place world.journal index →
            index ≠ (outlineOf world place).slots.length :=
          fun index out => Nat.ne_of_lt ((sound.tidy.entered index).mp out.accepted)
        change ¬ ShutOut place (.accepted place _ :: .listed place _ :: world.journal) id
        rw [shutOut_cons (by simp), shutOut_cons (by simp)]
        intro out
        simp only [Outline.add, List.mem_append, List.mem_singleton] at member
        rcases member with old | new
        · exact strict id old out
        · exact fresh id out new
  · exact (idles_elsewhere present here (by simp [Entry.idle, here])).passage sound

/-- A receiver enters the registry as it stands by then. -/
theorem enter_passes (present : place < origin.hosts.length) (receiver : Receiver)
    (passage : Passage host [] True origin world) :
    Passes host [] origin world (do
      let registry ← Run.registry place
      Run.setRegistry place (registry.add receiver).1
      Run.note (.accepted place (registry.add receiver).2)
      return some (registry.add receiver).2) := by
  apply passes_registry passage
  intro _
  exact passage.trans (add_passage passage.sound (passage.present present) receiver)

/-- A receiver is registered or rejected, and either passes. -/
theorem register_passes (careful : Careful host call) (receiver : Receiver) (sound : Sound host world)
    (present : place < world.hosts.length) :
    Passes host [] world world (Scheduler.register call place receiver) := by
  apply passes_registry (.refl sound)
  intro unlocked
  split
  · cases receiver with
    | system kind logic => exact enter_passes present (.system kind logic) (.refl sound)
    | behaviour entity script logic =>
        dsimp only
        apply (attach_passes careful entity script logic sound present unlocked).bind
        exact fun _ middle passage => enter_passes present (.behaviour entity script logic) passage
  · apply (idle_note rfl : Idle host _).passes (.refl sound) |>.bind
    intro _ middle passage
    apply (reject_passes careful receiver passage).bind
    exact fun _ after passage => passes_pure passage none

end ScriptHost.Session.Shutdown
