/-
This file compares two runs step by step: from related states they come to related states.
-/
import ScriptHost.Proofs.Session.Ends

namespace ScriptHost.Session

/-- A run can go on in another state than a world. -/
abbrev Effect (State : Type) := ExceptT Raised (StateM State)

namespace Effect

variable {State Other α β γ δ : Type}

/-- Both runs return, or both are left early for the same reason. -/
def Twin (values : α → β → Prop) : Except Raised α → Except Raised β → Prop
  | .ok value, .ok other => values value other
  | .error raised, .error other => raised = other
  | _, _ => False

/-- Twins return related values, or both raise the same. -/
theorem Twin.cases {values : α → β → Prop} {result : Except Raised α} {other : Except Raised β}
    (twin : Twin values result other) :
    (∃ value same, result = .ok value ∧ other = .ok same ∧ values value same) ∨
      ∃ raised, result = .error raised ∧ other = .error raised := by
  rcases result with raised | value <;> rcases other with raised' | same
  · exact Or.inr ⟨raised, rfl, by rw [show raised = raised' from twin]⟩
  · exact twin.elim
  · exact twin.elim
  · exact Or.inl ⟨value, same, rfl, rfl, twin⟩

/-- Twins with equal values are equal. -/
theorem twin_eq {result other : Except Raised α} : Twin Eq result other ↔ result = other := by
  rcases result with raised | value <;> rcases other with raised' | same <;> simp [Twin]

/-- The states are related before and after, and the results are related as well. -/
def Together (related : State → Other → Prop) (results : Except Raised α → Except Raised β → Prop)
    (left : Effect State α) (right : Effect Other β) : Prop :=
  ∀ state other, related state other →
    results (left.run.run state).1 (right.run.run other).1 ∧
      related (left.run.run state).2 (right.run.run other).2

variable {related : State → Other → Prop}

/-- What two runs come to together may be weakened. -/
theorem Together.mono {left : Effect State α} {right : Effect Other β}
    {results weaker : Except Raised α → Except Raised β → Prop}
    (together : Together related results left right)
    (implies : ∀ result other, results result other → weaker result other) :
    Together related weaker left right := by
  intro state other holds
  obtain ⟨ends, after⟩ := together state other holds
  exact ⟨implies _ _ ends, after⟩

/-- Runs that only return do so together. -/
theorem together_pure {results : Except Raised α → Except Raised β → Prop} {value : α} {other : β}
    (holds : results (.ok value) (.ok other)) :
    Together related results (pure value) (pure other) :=
  fun _ _ same => ⟨holds, same⟩

/-- Runs that only throw do so together. -/
theorem together_throw {results : Except Raised α → Except Raised β → Prop} {raised other : Raised}
    (holds : results (.error raised) (.error other)) :
    Together related results (throw raised) (throw other) :=
  fun _ _ same => ⟨holds, same⟩

/-- What comes next starts in related states with related values. -/
theorem Together.bind {left : Effect State α} {right : Effect Other β} {next : α → Effect State γ}
    {following : β → Effect Other δ} {values : α → β → Prop}
    {results : Except Raised γ → Except Raised δ → Prop}
    (first : Together related (Twin values) left right)
    (early : ∀ raised, results (.error raised) (.error raised))
    (rest : ∀ value other, values value other → Together related results (next value) (following other)) :
    Together related results (left >>= next) (right >>= following) := by
  intro state other holds
  obtain ⟨ends, after⟩ := first state other holds
  rw [Stateful.run_bind, Stateful.run_bind]
  revert ends after
  rcases left.run.run state with ⟨result, state⟩
  rcases right.run.run other with ⟨result', other⟩
  intro ends after
  obtain ⟨value, same, rfl, rfl, linked⟩ | ⟨raised, rfl, rfl⟩ := Twin.cases ends
  · exact rest value same linked state other after
  · exact ⟨early raised, after⟩

/-- Twins may go on with twins. -/
theorem Together.then {left : Effect State α} {right : Effect Other β} {next : α → Effect State γ}
    {following : β → Effect Other δ} {values : α → β → Prop} {answers : γ → δ → Prop}
    (first : Together related (Twin values) left right)
    (rest : ∀ value other, values value other →
      Together related (Twin answers) (next value) (following other)) :
    Together related (Twin answers) (left >>= next) (right >>= following) :=
  first.bind (fun _ => rfl) rest

/-- Twins without their values are twins. -/
theorem Together.discard {left : Effect State α} {right : Effect Other β} {values : α → β → Prop}
    (together : Together related (Twin values) left right) :
    Together related (Twin Eq) (Functor.discard left) (Functor.discard right) := by
  intro first second holds
  obtain ⟨ends, after⟩ := together first second holds
  rw [Stateful.run_discard, Stateful.run_discard]
  revert ends after
  rcases left.run.run first with ⟨result, first⟩
  rcases right.run.run second with ⟨result', second⟩
  intro ends after
  obtain ⟨value, same, rfl, rfl, linked⟩ | ⟨raised, rfl, rfl⟩ := Twin.cases ends
  · exact ⟨rfl, after⟩
  · exact ⟨rfl, after⟩

/-- Both handlers take up the same reason. -/
theorem Together.tryCatch {left : Effect State α} {right : Effect Other β}
    {handler : Raised → Effect State α} {other : Raised → Effect Other β} {values : α → β → Prop}
    (body : Together related (Twin values) left right)
    (handled : ∀ raised, Together related (Twin values) (handler raised) (other raised)) :
    Together related (Twin values) (tryCatch left handler) (tryCatch right other) := by
  intro first second holds
  obtain ⟨ends, after⟩ := body first second holds
  rw [Stateful.run_tryCatch, Stateful.run_tryCatch]
  revert ends after
  rcases left.run.run first with ⟨result, first⟩
  rcases right.run.run second with ⟨result', second⟩
  intro ends after
  obtain ⟨value, same, rfl, rfl, linked⟩ | ⟨raised, rfl, rfl⟩ := Twin.cases ends
  · exact ⟨linked, after⟩
  · exact handled raised first second after

end Effect

end ScriptHost.Session
