/-
This file puts runs together that lead to a good world unless they are broken off.
-/
import ScriptHost.Proofs.Congruence.Holding
import ScriptHost.Proofs.Shutdown.Passages

namespace ScriptHost.Session.Tenure

open Shutdown (Mild Calm Sure)

/-- Unless it is broken off, the run leaves a good world. -/
def Leads {α : Type} (good : World → Prop) (body : Run α) (world : World) : Prop :=
  body.Ends world fun result after => Calm result → good after

variable {α β : Type} {body : Run α} {next : α → Run β} {good better middle : World → Prop} {world after : World}

/-- A run that leads somewhere leads to whatever is implied there. -/
theorem Leads.mono (leads : Leads good body world) (implies : ∀ after, good after → better after) :
    Leads better body world :=
  Run.Ends.mono leads fun _ after holds calm => implies after (holds calm)

/-- A run that does nothing leads to where it is. -/
theorem leads_pure {value : α} (holds : good world) : Leads good (pure value : Run α) world := fun _ => holds

/-- A run that is known leads to where it ends. -/
theorem leads_run {value : α} (ran : body.run.run world = (.ok value, after)) (holds : good after) :
    Leads good body world := by
  unfold Leads Run.Ends
  rw [ran]
  exact fun _ => holds

/-- Whatever keeps good worlds good leads to one. -/
theorem leads_keeping (agrees : body.Agrees (Diagonal good)) (holds : good world) : Leads good body world :=
  fun _ => agrees.keeps holds

/-- One run leads to the next, or is left early in a good world. -/
theorem Leads.bind (first : Leads middle body world) (left : ∀ after, middle after → good after)
    (rest : ∀ value after, middle after → Leads good (next value) after) : Leads good (body >>= next) world := by
  unfold Leads
  rw [Run.ends_bind]
  apply Run.Ends.mono first
  intro result after holds
  cases result with
  | ok value => exact rest value after (holds trivial)
  | error raised => exact fun mild => left after (holds mild)

/-- A run that is never left early is always followed by the next. -/
theorem Leads.followed (first : Leads middle body world) (sure : Sure body)
    (rest : ∀ value after, middle after → Leads good (next value) after) : Leads good (body >>= next) world := by
  have wrecked := sure world
  unfold Leads Run.Ends at first
  unfold Leads
  rw [Run.ends_bind]
  unfold Run.Ends
  revert first wrecked
  rcases body.run.run world with ⟨raised | value, after⟩
  · exact fun _ wrecked mild => absurd mild (wrecked raised rfl)
  · exact fun first _ => rest value after (first trivial)

/-- A step whose outcome is known is taken. -/
theorem Leads.step {value : α} (ran : body.run.run world = (.ok value, after))
    (rest : Leads good (next value) after) : Leads good (body >>= next) world := by
  unfold Leads
  rw [Run.ends_bind]
  unfold Run.Ends
  rw [ran]
  exact rest

section Steps

variable {entry : Entry} {host : Nat}

/-- A run leads on from the entry that it writes. -/
theorem leads_note {next : Unit → Run α} (rest : Leads good (next ()) (world.note entry)) :
    Leads good (Run.note entry >>= next) world := rest

/-- A run leads on from the world that it reads. -/
theorem leads_get {next : World → Run α} (rest : Leads good (next world) world) :
    Leads good (get >>= next) world := rest

/-- A run leads on from the world that it has changed. -/
theorem leads_modify {change : World → World} {next : Unit → Run α} (rest : Leads good (next ()) (change world)) :
    Leads good (modify change >>= next) world := rest

/-- A run leads on from the host that it reads. -/
theorem leads_host {next : Host → Run α} (rest : Leads good (next (world.hostOf host)) world) :
    Leads good (Run.host host >>= next) world := rest

/-- A run leads on from the host that it has changed. -/
theorem leads_modifyHost {change : Host → Host} {next : Unit → Run α}
    (rest : Leads good (next ()) (world.putHost host (change (world.hostOf host)))) :
    Leads good (Run.modifyHost host change >>= next) world := rest

/-- Whoever needs a locked registry is broken off. -/
theorem leads_registry {next : Registry → Run α}
    (rest : Leads good (next (world.registryOf host)) world) : Leads good (Run.registry host >>= next) world := by
  unfold Leads Run.Ends
  rw [Run.registry_run]
  split
  · exact fun calm => calm.elim
  · exact rest

end Steps

/-- What a run returns may be dropped. -/
theorem Leads.discard (leads : Leads good body world) : Leads good (Functor.discard body) world := by
  unfold Leads
  rw [Shutdown.ends_discard]
  apply Run.Ends.mono leads
  intro result after holds
  cases result <;> exact holds

/-- A fault that is isolated leaves the world as good as it was. -/
theorem Leads.isolate {body : Run Unit} (leads : Leads good body world) : Leads good (Run.isolate body) world := by
  unfold Leads Run.Ends at leads ⊢
  rw [Run.isolate_run]
  revert leads
  rcases body.run.run world with ⟨raised | value, after⟩
  · cases raised <;> exact id
  · exact id

/-- What is done afterwards leads on, however the run before it ended. -/
theorem Leads.afterwards {finish : Run Unit} (first : Leads middle body world) (sure : Sure finish)
    (finished : ∀ after, middle after → Leads good finish after) :
    Leads good (Run.afterwards body finish) world := by
  -- When the finish itself is broken off, so is the whole.
  have wrecked : ∀ raised after, (Mild raised → middle after) →
      Leads good (do finish; throw raised : Run α) after := by
    intro raised after holds
    have broken := sure after
    have done := finished after
    unfold Leads Run.Ends at done
    unfold Leads
    rw [Run.ends_bind]
    unfold Run.Ends
    revert broken done
    rcases finish.run.run after with ⟨worse | value, last⟩
    · exact fun broken _ mild => absurd mild (broken worse rfl)
    · exact fun _ done mild => done (holds mild) trivial
  rw [Run.afterwards_eq]
  unfold Leads
  rw [Run.ends_tryCatch, Run.ends_bind]
  apply Run.Ends.mono first
  intro result after holds
  cases result with
  | error raised => exact wrecked raised after holds
  | ok value =>
      have broken := sure after
      have done := finished after (holds trivial)
      unfold Leads Run.Ends at done
      rw [Run.followed_ok, Run.ends_bind]
      unfold Run.Ends
      revert broken done
      rcases finish.run.run after with ⟨worse | value, last⟩
      · exact fun broken _ => wrecked worse last fun mild => absurd mild (broken worse rfl)
      · exact fun _ done _ => done trivial

end ScriptHost.Session.Tenure
