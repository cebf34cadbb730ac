/-
This file opens runs that keep a state and may be left early. Those of a session and those of a script are such
runs.
-/

namespace ScriptHost.Stateful

variable {Early State α β : Type}

/-- One run follows another in the state that it leaves, unless that one is left early. -/
theorem run_bind (body : ExceptT Early (StateM State) α) (next : α → ExceptT Early (StateM State) β)
    (state : State) :
    (body >>= next).run.run state =
      match body.run.run state with
      | (.ok value, after) => (next value).run.run after
      | (.error early, after) => (.error early, after) := by
  change (match body.run.run state with
    | (result, after) => (ExceptT.bindCont next result).run after) = _
  rcases body.run.run state with ⟨result, after⟩
  cases result <;> rfl

/-- A run goes on from where its first part has returned. -/
theorem run_after {body : ExceptT Early (StateM State) α} {value : α} {state after : State}
    (ran : body.run.run state = (.ok value, after)) (next : α → ExceptT Early (StateM State) β) :
    (body >>= next).run.run state = (next value).run.run after := by
  rw [run_bind, ran]

/-- The state is read as it is. -/
theorem run_get (next : State → ExceptT Early (StateM State) α) (state : State) :
    (get >>= next : ExceptT Early (StateM State) α).run.run state = (next state).run.run state := rfl

/-- A handler takes up a run that is left early, in the state that it leaves. -/
theorem run_tryCatch (body : ExceptT Early (StateM State) α)
    (handler : Early → ExceptT Early (StateM State) α) (state : State) :
    (tryCatch body handler).run.run state =
      match body.run.run state with
      | (.ok value, after) => (.ok value, after)
      | (.error early, after) => (handler early).run.run after := by
  simp only [tryCatch, tryCatchThe, MonadExceptOf.tryCatch, ExceptT.tryCatch, bind, ExceptT.mk,
    ExceptT.run, StateT.run, StateT.bind]
  rcases body state with ⟨result, after⟩
  cases result <;> rfl

/-- What a run returns may be dropped. -/
theorem run_discard (body : ExceptT Early (StateM State) α) (state : State) :
    (discard body).run.run state =
      match body.run.run state with
      | (.ok _, after) => (.ok (), after)
      | (.error early, after) => (.error early, after) := by
  simp only [Functor.discard, Functor.mapConst, Function.comp, ExceptT.map, ExceptT.mk,
    ExceptT.run, StateT.run, bind, StateT.bind]
  rcases body state with ⟨result, after⟩
  cases result <;> rfl

end ScriptHost.Stateful
