/-
This file says how runs end: with a value or early, and in which world.
-/
import ScriptHost.Proofs.Stateful
import ScriptHost.Session.Perform

namespace ScriptHost.Session

/-- The post condition sees how the run ends and the world that it leaves. -/
def Run.Ends {α : Type} (body : Run α) (world : World)
    (post : Except Raised α → World → Prop) : Prop :=
  post (body.run.run world).1 (body.run.run world).2

namespace Run

variable {α β : Type}

/-- A run ends in a weaker way as well. -/
theorem Ends.mono {body : Run α} {world : World} {post weaker : Except Raised α → World → Prop}
    (ends : body.Ends world post)
    (implies : ∀ result after, post result after → weaker result after) :
    body.Ends world weaker :=
  implies _ _ ends

/-- A run that was left early skips what follows. -/
def followed (next : α → Run β) (post : Except Raised β → World → Prop) :
    Except Raised α → World → Prop
  | .ok value, world => (next value).Ends world post
  | .error raised, world => post (.error raised) world

/-- A run that only returns ends where it is. -/
@[simp] theorem ends_pure (value : α) (world : World) (post : Except Raised α → World → Prop) :
    (pure value : Run α).Ends world post ↔ post (.ok value) world := Iff.rfl

/-- A run that only throws ends where it is. -/
@[simp] theorem ends_throw (raised : Raised) (world : World)
    (post : Except Raised α → World → Prop) :
    (throw raised : Run α).Ends world post ↔ post (.error raised) world := Iff.rfl

/-- Reading the world ends with it. -/
@[simp] theorem ends_get (world : World) (post : Except Raised World → World → Prop) :
    (get : Run World).Ends world post ↔ post (.ok world) world := Iff.rfl

/-- A change of the world ends in the changed one. -/
@[simp] theorem ends_modify (change : World → World) (world : World)
    (post : Except Raised Unit → World → Prop) :
    (modify change : Run Unit).Ends world post ↔ post (.ok ()) (change world) := Iff.rfl

/-- A run ends where its second part does, or where its first part is left early. -/
theorem ends_bind (body : Run α) (next : α → Run β) (world : World)
    (post : Except Raised β → World → Prop) :
    (body >>= next).Ends world post ↔ body.Ends world (followed next post) := by
  unfold Ends
  rw [Stateful.run_bind]
  rcases body.run.run world with ⟨result, after⟩
  cases result <;> rfl

@[simp] theorem followed_ok (next : α → Run β) (post : Except Raised β → World → Prop)
    (value : α) (world : World) :
    followed next post (.ok value) world ↔ (next value).Ends world post := Iff.rfl

@[simp] theorem followed_error (next : α → Run β) (post : Except Raised β → World → Prop)
    (raised : Raised) (world : World) :
    followed next post (.error raised) world ↔ post (.error raised) world := Iff.rfl

/-- A run that was left early is taken up by the handler. -/
def caught (handler : Raised → Run α) (post : Except Raised α → World → Prop) :
    Except Raised α → World → Prop
  | .ok value, world => post (.ok value) world
  | .error raised, world => (handler raised).Ends world post

@[simp] theorem caught_ok (handler : Raised → Run α) (post : Except Raised α → World → Prop)
    (value : α) (world : World) : caught handler post (.ok value) world ↔ post (.ok value) world := Iff.rfl

@[simp] theorem caught_error (handler : Raised → Run α) (post : Except Raised α → World → Prop)
    (raised : Raised) (world : World) :
    caught handler post (.error raised) world ↔ (handler raised).Ends world post := Iff.rfl

/-- A run that is caught ends where its handler does. -/
theorem ends_tryCatch (body : Run α) (handler : Raised → Run α) (world : World)
    (post : Except Raised α → World → Prop) :
    (tryCatch body handler).Ends world post ↔ body.Ends world (caught handler post) := by
  unfold Ends
  rw [Stateful.run_tryCatch]
  rcases body.run.run world with ⟨result, after⟩
  cases result <;> rfl

/-- Such a run returns a value, unless its hooks nest too deep. -/
def Returns (good : α → World → Prop) (bad : World → Prop) : Except Raised α → World → Prop
  | .ok value, world => good value world
  | .error .exhausted, world => bad world
  | .error _, _ => False

/-- Unless hooks nest too deep a run has a value. -/
theorem Returns.cases {good : α → World → Prop} {bad : World → Prop} {result : Except Raised α}
    {world : World} (returns : Returns good bad result world) :
    (∃ value, result = .ok value ∧ good value world) ∨ result = .error .exhausted ∧ bad world := by
  rcases result with raised | value
  · cases raised
    case exhausted => exact Or.inr ⟨rfl, returns⟩
    all_goals exact returns.elim
  · exact Or.inl ⟨value, rfl, returns⟩

/-- Runs that return follow each other. -/
theorem Ends.returns {body : Run α} {next : α → Run β} {world : World} {good : α → World → Prop}
    {better : β → World → Prop} {bad : World → Prop} (first : body.Ends world (Returns good bad))
    (rest : ∀ value after, good value after → (next value).Ends after (Returns better bad)) :
    (body >>= next).Ends world (Returns better bad) := by
  rw [ends_bind]
  apply first.mono
  intro result after returns
  obtain ⟨value, rfl, holds⟩ | ⟨rfl, fails⟩ := returns.cases
  · exact rest value after holds
  · exact fails

/-- A run returns with something weaker as well. -/
theorem Ends.relax {body : Run α} {world : World} {good better : α → World → Prop} {bad : World → Prop}
    (ends : body.Ends world (Returns good bad))
    (implies : ∀ value after, good value after → better value after) :
    body.Ends world (Returns better bad) := by
  apply ends.mono
  intro result after returns
  obtain ⟨value, rfl, holds⟩ | ⟨rfl, fails⟩ := returns.cases
  · exact implies value after holds
  · exact fails

/-- A run may be left early in a worse world. -/
theorem Ends.excuse {body : Run α} {world : World} {good : α → World → Prop} {bad worse : World → Prop}
    (ends : body.Ends world (Returns good bad)) (implies : ∀ after, bad after → worse after) :
    body.Ends world (Returns good worse) := by
  apply ends.mono
  intro result after returns
  obtain ⟨value, rfl, holds⟩ | ⟨rfl, fails⟩ := returns.cases
  · exact holds
  · exact implies after fails

/-- Such a run ends the way a hook does, unless its hooks nest too deep. -/
def Enacts (good : Ending → World → Prop) (bad : World → Prop) : Except Raised Unit → World → Prop
  | .ok (), world => good .normal world
  | .error (.failed _), world | .error (.panicked _), world =>
      ∃ ending, ending ≠ .normal ∧ good ending world
  | .error .stuck, _ => False
  | .error .exhausted, world => bad world

/-- A run that returns may be followed by one that enacts an ending. -/
theorem Ends.enacts {body : Run α} {next : α → Run Unit} {world : World} {good : α → World → Prop}
    {better : Ending → World → Prop} {bad : World → Prop} (first : body.Ends world (Returns good bad))
    (rest : ∀ value after, good value after → (next value).Ends after (Enacts better bad)) :
    (body >>= next).Ends world (Enacts better bad) := by
  rw [ends_bind]
  apply first.mono
  intro result after returns
  obtain ⟨value, rfl, holds⟩ | ⟨rfl, fails⟩ := returns.cases
  · exact rest value after holds
  · exact fails

/-- An ending is enacted in the world that it is good for. -/
theorem ends_enact {ending : Ending} {world : World} {good : Ending → World → Prop}
    {bad : World → Prop} (holds : good ending world) :
    ending.enact.Ends world (Enacts good bad) := by
  cases ending with
  | normal => exact holds
  | failure context message => exact ⟨_, by simp, holds⟩
  | panic message => exact ⟨_, by simp, holds⟩

def isolated : Except Raised Unit → Except Raised (Option Fault)
  | .ok () => .ok none
  | .error (.failed causes) => .ok (some (.error causes))
  | .error (.panicked message) => .ok (some (.panicked message))
  | .error raised => .error raised

/-- An isolated run tells its fault, unless the session itself has to end. -/
theorem isolate_run (body : Run Unit) (world : World) :
    (isolate body).run.run world = (isolated (body.run.run world).1, (body.run.run world).2) := by
  unfold isolate
  rw [Stateful.run_bind, Stateful.run_tryCatch, Stateful.run_bind]
  rcases body.run.run world with ⟨raised | done, after⟩
  · cases raised <;> rfl
  · rfl

/-- What finishes a run is part of it, and it is also what takes it up. -/
theorem afterwards_eq (body : Run α) (finish : Run Unit) :
    afterwards body finish =
      tryCatch (do let value ← body; finish; pure value) (fun raised => do finish; throw raised) := by
  funext world
  change (afterwards body finish).run.run world = (tryCatch _ _ : Run α).run.run world
  unfold afterwards
  rw [Stateful.run_bind, Stateful.run_tryCatch, Stateful.run_tryCatch, Stateful.run_bind, Stateful.run_bind]
  rcases body.run.run world with ⟨raised | value, after⟩
  · dsimp only
    rw [Stateful.run_bind, Stateful.run_bind]
    rcases finish.run.run after with ⟨result, last⟩
    cases result <;> rfl
  · dsimp only
    rw [Stateful.run_bind, Stateful.run_bind]
    rcases finish.run.run after with ⟨raised | done, last⟩
    · dsimp only
      rw [Stateful.run_bind, Stateful.run_bind]
      rcases finish.run.run last with ⟨result, last⟩
      cases result <;> rfl
    · rfl

/-- An isolated hook returns, and its fault tells whether it ended well. -/
theorem Ends.isolate {body : Run Unit} {world : World} {good : Ending → World → Prop}
    {bad : World → Prop} (ends : body.Ends world (Enacts good bad)) :
    (Run.isolate body).Ends world (Returns (fun fault after =>
      ∃ ending, (fault = none ↔ ending = .normal) ∧ good ending after) bad) := by
  unfold Ends at ends ⊢
  rw [isolate_run]
  revert ends
  generalize body.run.run world = outcome
  rcases outcome with ⟨raised | value, after⟩
  · cases raised with
    | failed causes => exact fun ⟨ending, other, holds⟩ => ⟨ending, by simp [other], holds⟩
    | panicked message => exact fun ⟨ending, other, holds⟩ => ⟨ending, by simp [other], holds⟩
    | stuck => exact id
    | exhausted => exact id
  · exact fun holds => ⟨.normal, by simp, holds⟩

end Run

end ScriptHost.Session
