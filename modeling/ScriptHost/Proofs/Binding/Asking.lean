/-
This file says what entities declare and what factories make of it.
-/
import ScriptHost.Proofs.Binding.Views

namespace ScriptHost.Session.Binding

/-- A text that cannot be read counts as none, and the engine may panic. -/
def text? (engine : Engine) (entity : Entity) (key : String) : Except String (Option String) :=
  match engine.panicsOn key with
  | some message => .error message
  | none => .ok ((engine.scriptData entity key).toOption.getD none)

def names? (engine : Engine) (entity : Entity) (key : String) (parse : String → Option (List String)) :
    Except String (Option (List String)) := do
  return (← text? engine entity key).bind parse

/-- The names of the scripts that an entity declares. -/
def declaration (engine : Engine) (entity : Entity) : Except String (List String) := do
  match ← names? engine entity Bind.recordKey Bind.recordNames? with
  | some names => return Bind.tidy names
  | none =>
      match ← names? engine entity Bind.listKey Bind.listNames? with
      | some names => return Bind.tidy names
      | none => return []

/-- Every name that is declared is wanted on its entity. -/
def wanted (engine : Engine) : List Entity → Except String (List (Entity × String))
  | [] => .ok []
  | entity :: rest => do
      let names ← declaration engine entity
      return names.map (entity, ·) ++ (← wanted engine rest)

variable {world after : World} {host : Nat} {call : Caller}

/-- A panic of the engine goes on. -/
def raising {Value : Type} : Except String Value → Except Raised Value
  | .ok value => .ok value
  | .error message => .error (.panicked message)

/-- The body gives the answer of the engine or panics with it, and a pass sees nothing of it. -/
def Tells {α : Type} (host : Nat) (world : World) (body : Run α) (answer : Except String α) : Prop :=
  body.Ends world fun result after =>
    result = raising answer ∧ view after host = view world host

/-- Two runs that tell an answer one after the other tell the answer of both. -/
theorem Tells.bind {α β : Type} {body : Run α} {next : α → Run β} {answer : Except String α}
    {follow : α → Except String β} (first : Tells host world body answer)
    (rest : ∀ value after, view after host = view world host → Tells host after (next value) (follow value)) :
    Tells host world (body >>= next) (answer >>= follow) := by
  unfold Tells
  rw [Run.ends_bind]
  apply first.mono
  intro result after told
  obtain ⟨rfl, same⟩ := told
  cases answer with
  | error message => exact ⟨rfl, same⟩
  | ok value =>
      rw [raising, Run.followed_ok]
      apply (rest value after same).mono
      intro result last told
      exact ⟨told.1, told.2.trans same⟩

/-- A run that only returns tells its value. -/
theorem tells_pure {α : Type} (value : α) : Tells host world (pure value) (pure value) := ⟨rfl, rfl⟩

/-- Worlds of one view have one engine. -/
theorem engine_of_view (same : view after host = view world host) : after.engine = world.engine :=
  congrArg View.engine same

/-- Reading a key tells what the engine has there. -/
theorem readKey_tells (entity : Entity) (key : String) :
    Tells host world (readKey entity key) (text? world.engine entity key) := by
  unfold Tells readKey
  rw [Run.ends_bind, Run.ends_get, Run.followed_ok]
  dsimp only
  unfold text?
  cases world.engine.panicsOn key with
  | some message => exact ⟨rfl, rfl⟩
  | none =>
      cases world.engine.scriptData entity key with
      | ok value => exact ⟨rfl, rfl⟩
      | error error => exact ⟨rfl, rfl⟩

/-- Reading names tells the names that the text holds. -/
theorem readNames_tells (entity : Entity) (key : String) (parse : String → Option (List String)) :
    Tells host world (readNames entity key parse) (names? world.engine entity key parse) := by
  unfold readNames names?
  refine (readKey_tells entity key).bind fun text after same => ?_
  cases text with
  | none => exact ⟨rfl, rfl⟩
  | some text =>
      simp only [Option.bind_some]
      cases parse text with
      | some names => exact ⟨rfl, rfl⟩
      | none => exact ⟨rfl, rfl⟩

/-- The engine tells what an entity declares. -/
theorem declared_tells (entity : Entity) :
    Tells host world (declared entity) (declaration world.engine entity) := by
  unfold declared declaration
  refine (readNames_tells entity _ _).bind fun names after same => ?_
  cases names with
  | some names => exact tells_pure _
  | none =>
      rw [← engine_of_view same]
      refine (readNames_tells entity _ _).bind fun names last _ => ?_
      cases names with
      | some names => exact tells_pure _
      | none => exact tells_pure _

/-- No entity declares a script twice. -/
theorem declaration_nodup {engine : Engine} {entity : Entity} {names : List String}
    (declares : declaration engine entity = .ok names) : names.Nodup := by
  unfold declaration at declares
  cases record : names? engine entity Bind.recordKey Bind.recordNames? with
  | error message =>
      rw [record] at declares
      cases declares
  | ok held =>
      rw [record] at declares
      cases held with
      | some held =>
          obtain rfl := Except.ok.inj declares
          exact Bind.tidy_nodup held
      | none =>
          cases plain : names? engine entity Bind.listKey Bind.listNames? with
          | error message =>
              rw [plain] at declares
              cases declares
          | ok held =>
              rw [plain] at declares
              cases held with
              | some held =>
                  obtain rfl := Except.ok.inj declares
                  exact Bind.tidy_nodup held
              | none =>
                  obtain rfl := Except.ok.inj declares
                  exact List.nodup_nil

/-- What is wanted comes entity by entity. -/
theorem wanted_cons {engine : Engine} {entity : Entity} {rest : List Entity}
    {pairs : List (Entity × String)} (wants : wanted engine (entity :: rest) = .ok pairs) :
    ∃ names others, declaration engine entity = .ok names ∧ wanted engine rest = .ok others ∧
      pairs = names.map (entity, ·) ++ others := by
  unfold wanted at wants
  cases declares : declaration engine entity with
  | error message =>
      rw [declares] at wants
      cases wants
  | ok names =>
      cases others : wanted engine rest with
      | error message =>
          rw [declares, others] at wants
          cases wants
      | ok others' =>
          rw [declares, others] at wants
          exact ⟨names, others', rfl, rfl, (Except.ok.inj wants).symm⟩

/-- Scripts are wanted only on the entities that were asked. -/
theorem wanted_mem {engine : Engine} {entities : List Entity} {pairs : List (Entity × String)}
    (wants : wanted engine entities = .ok pairs) {pair : Entity × String} (member : pair ∈ pairs) :
    pair.1 ∈ entities := by
  induction entities generalizing pairs with
  | nil =>
      obtain rfl := Except.ok.inj wants
      cases member
  | cons entity rest ih =>
      obtain ⟨names, others, -, follow, rfl⟩ := wanted_cons wants
      rcases List.mem_append.mp member with here | later
      · obtain ⟨name, -, rfl⟩ := List.mem_map.mp here
        exact List.mem_cons_self
      · exact List.mem_cons_of_mem _ (ih follow later)

end ScriptHost.Session.Binding
