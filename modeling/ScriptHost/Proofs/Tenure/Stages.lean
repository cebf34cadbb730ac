/-
This file follows the one runtime that holds the context from stage to stage. A survey stands in a stage when
everything that counts is as the stage has it.
-/
import ScriptHost.Proofs.Tenure.Surveys

namespace ScriptHost.Session.Tenure

namespace Standing

def used (standing : Standing) : Standing :=
  { standing with users := standing.users + 1 }

def unused (standing : Standing) : Standing :=
  { standing with users := standing.users - 1 }

def unnamed (standing : Standing) : Standing :=
  { standing with named := false }

def cleared (standing : Standing) : Standing :=
  { standing with freed := true }

def hooked (subscription : Nat) (standing : Standing) : Standing :=
  { standing with subscription := some subscription }

def unhooked (standing : Standing) : Standing :=
  { standing with subscription := none }

def driven (place listener : Nat) (standing : Standing) : Standing :=
  { standing with
    engaged := standing.engaged.map fun engaged => (engaged.1, some listener)
    listeners := standing.listeners ++ [⟨listener, .scheduler place none⟩] }

def reached (state : RuntimeState) (standing : Standing) : Standing :=
  { standing with engaged := standing.engaged.map fun engaged => (state, engaged.2) }

/-- Only the listener that drove the runtime is dismissed. -/
def quit (standing : Standing) : Standing :=
  { standing with
    engaged := standing.engaged.map fun _ => (.shutDown, none)
    listeners := (standing.engaged.bind Prod.snd).elim standing.listeners fun id =>
      standing.listeners.filter fun listening => listening.id != id }

/-- This is a host when it comes. -/
def fresh : Standing := ⟨some (.created, none), none, [], 0, true, false⟩

end Standing

namespace Survey

def hooked (survey : Survey) (place subscription : Nat) : Survey :=
  { survey.alter place (.hooked subscription) with
    heard := survey.heard ++ [⟨subscription, .source place⟩] }

def unhooked (survey : Survey) (place : Nat) : Survey :=
  { survey.alter place .unhooked with
    heard := (survey.standing place).subscription.elim survey.heard fun id =>
      survey.heard.filter fun subscription => subscription.id != id }

def started (survey : Survey) (place subscription listener : Nat) : Survey :=
  ((survey.hooked place subscription).alter place (.driven place listener)).alter place (.reached .running)

def stopped (survey : Survey) (place : Nat) : Survey :=
  { (survey.alter place .quit).unhooked place with claimed := false }

def forgotten (survey : Survey) (name : String) : Survey :=
  { survey with named := survey.named.filter fun entry => entry.1 != name }

/-- A host that comes is the last one. -/
def joined (survey : Survey) (name : String) : Survey :=
  { survey with
    claimed := true
    named := (name, survey.length) :: (survey.forgotten name).named
    length := survey.length + 1
    standing := Function.update survey.standing survey.length .fresh }

variable (survey : Survey) (place subscription listener : Nat)

/-- A use that is over leaves nothing behind. -/
theorem unused_used : (survey.alter place .used).alter place .unused = survey :=
  (alter_alter survey place _ _).trans (alter_id survey place)

/-- Use of a host and its start do not interfere. -/
theorem started_used : (survey.alter place .used).started place subscription listener =
    (survey.started place subscription listener).alter place .used := by
  simp [started, hooked, alter, Standing.hooked, Standing.driven, Standing.reached, Standing.used]

/-- Use of a host and its stop do not interfere. -/
theorem stopped_used : (survey.alter place .used).stopped place = (survey.stopped place).alter place .used := by
  simp [stopped, unhooked, alter, Standing.unhooked, Standing.quit, Standing.used]

/-- A source that is not hooked stays as it is. -/
theorem unhooked_silent (silent : (survey.standing place).subscription = none) :
    survey.unhooked place = survey := by
  have same : Standing.unhooked (survey.standing place) = survey.standing place := by
    unfold Standing.unhooked
    rw [← silent]
  simp [unhooked, alter, same, silent]

end Survey

/-- Nobody holds the context, or a runtime does: it is created, or it runs and hears of ticks through one
subscription and one listener. -/
inductive Stage where
  | idle
  | created (host : Nat)
  | running (host subscription listener : Nat)
  deriving DecidableEq, Repr

namespace Stage

def holder? : Stage → Option Nat
  | .idle => none
  | .created host | .running host .. => some host

def engaged : Stage → Option (RuntimeState × Option Nat)
  | .idle => none
  | .created _ => some (.created, none)
  | .running _ _ listener => some (.running, some listener)

def subscription : Stage → Option Nat
  | .running _ subscription _ => some subscription
  | _ => none

def listeners : Stage → List (Tick.Listening Listener)
  | .running host _ listener => [⟨listener, .scheduler host none⟩]
  | _ => []

def heard : Stage → List (Event.Subscription Handler)
  | .running host subscription _ => [⟨subscription, .source host⟩]
  | _ => []

/-- The host goes, and whoever held the context holds it no longer. -/
def without (stage : Stage) (host : Nat) : Stage :=
  if stage.holder? = some host then .idle else stage

/-- Whoever holds the context has a runtime that is not shut down. -/
theorem engaged_live {stage : Stage} {host : Nat} (held : stage.holder? = some host) :
    ∃ state listener, stage.engaged = some (state, listener) ∧ state ≠ .shutDown := by
  cases stage with
  | idle => cases held
  | created host => exact ⟨.created, none, rfl, nofun⟩
  | running host subscription listener => exact ⟨.running, some listener, rfl, nofun⟩

/-- This is what the holder is like. -/
structure Holds (stage : Stage) (standing : Standing) : Prop where
  engaged : standing.engaged = stage.engaged
  subscription : standing.subscription = stage.subscription
  listeners : standing.listeners = stage.listeners
  kept : standing.freed = false

end Stage

structure Stands (stage : Stage) (survey : Survey) : Prop where
  claimed : survey.claimed = stage.holder?.isSome
  heard : survey.heard = stage.heard
  holds : ∀ host, stage.holder? = some host → stage.Holds (survey.standing host)
  released : ∀ host, stage.holder? ≠ some host → ∀ state listener,
    (survey.standing host).engaged = some (state, listener) → state = .shutDown
  named : ∀ entry ∈ survey.named, entry.2 < survey.length ∧ (survey.standing entry.2).named = true
  distinct : (survey.named.map Prod.snd).Nodup
  unused : ∀ host, (survey.standing host).users = 0

namespace Stands

variable {stage : Stage} {survey : Survey} {place host : Nat} {name : String} (stands : Stands stage survey)

include stands

/-- A host that has a name keeps it. -/
theorem alter_named (place : Nat) (change : Standing → Standing)
    (kept : place ∈ survey.named.map Prod.snd → (survey.standing place).named = true →
      (change (survey.standing place)).named = true) :
    ∀ entry ∈ survey.named,
      entry.2 < survey.length ∧ ((survey.alter place change).standing entry.2).named = true := by
  intro entry member
  obtain ⟨inside, named⟩ := stands.named entry member
  refine ⟨inside, ?_⟩
  by_cases same : entry.2 = place
  · rw [same] at named
    simpa [Survey.alter, same] using kept (List.mem_map.mpr ⟨entry, member, same⟩) named
  · simpa [Survey.alter, same] using named

/-- A change that leaves the users alone leaves every host unused. -/
theorem alter_unused (place : Nat) (change : Standing → Standing)
    (users : (change (survey.standing place)).users = (survey.standing place).users) :
    ∀ host, ((survey.alter place change).standing host).users = 0 := by
  intro host
  by_cases same : host = place
  · subst same
    simpa [Survey.alter, users] using stands.unused host
  · simpa [Survey.alter, same] using stands.unused host

/-- What changes does not tell how far a runtime is, and the holder stays as it is. -/
theorem alter {change : Standing → Standing}
    (engaged : (change (survey.standing place)).engaged = (survey.standing place).engaged)
    (holds : stage.holder? = some place → stage.Holds (survey.standing place) →
      stage.Holds (change (survey.standing place)))
    (named : place ∈ survey.named.map Prod.snd → (survey.standing place).named = true →
      (change (survey.standing place)).named = true)
    (users : (change (survey.standing place)).users = (survey.standing place).users) :
    Stands stage (survey.alter place change) where
  claimed := stands.claimed
  heard := stands.heard
  holds host held := by
    by_cases same : host = place
    · subst same
      have kept := holds held (stands.holds host held)
      simpa [Survey.alter] using kept
    · simpa [Survey.alter, same] using stands.holds host held
  released host other := by
    by_cases same : host = place
    · subst same
      simpa [Survey.alter, engaged] using stands.released host other
    · simpa [Survey.alter, same] using stands.released host other
  named := stands.alter_named place change named
  distinct := stands.distinct
  unused := stands.alter_unused place change users

/-- A host without a name loses nothing by having none. -/
theorem unnamed (absent : place ∉ survey.named.map Prod.snd) : Stands stage (survey.alter place .unnamed) :=
  stands.alter rfl (fun _ holds => ⟨holds.engaged, holds.subscription, holds.listeners, holds.kept⟩)
    (fun mentioned => absurd mentioned absent) rfl

/-- A host that does not hold the context may be freed. -/
theorem cleared (other : stage.holder? ≠ some place) : Stands stage (survey.alter place .cleared) :=
  stands.alter rfl (fun held => absurd held other) (fun _ => id) rfl

/-- Ticks that begin do not change the stage. -/
theorem begin (recent : List (Nat × Tick.Signal)) : Stands stage (survey.begin recent) :=
  ⟨stands.claimed, stands.heard, stands.holds, stands.released, stands.named, stands.distinct, stands.unused⟩

/-- A name may be forgotten. -/
theorem forgotten (name : String) : Stands stage (survey.forgotten name) :=
  ⟨stands.claimed, stands.heard, stands.holds, stands.released,
    fun entry member => stands.named entry (List.mem_of_mem_filter member),
    stands.distinct.sublist (List.filter_sublist.map Prod.snd), stands.unused⟩

/-- No other name stands for the same host. -/
theorem forgotten_absent (found : survey.named.lookup name = some place) :
    place ∉ (survey.forgotten name).named.map Prod.snd := by
  intro mentioned
  obtain ⟨entry, member, same⟩ := List.mem_map.mp mentioned
  obtain ⟨inside, other⟩ := List.mem_filter.mp member
  obtain ⟨before, after, split, -⟩ := List.lookup_eq_some_iff.mp found
  have here : (name, place) ∈ survey.named := by simp [split]
  have equal : entry = (name, place) := List.inj_on_of_nodup_map stands.distinct inside here same
  rw [equal] at other
  simp at other

/-- A name leads to a host that is there and knows that it is named. -/
theorem lookup (found : survey.named.lookup name = some place) :
    place < survey.length ∧ (survey.standing place).named = true := by
  obtain ⟨before, after, split, -⟩ := List.lookup_eq_some_iff.mp found
  exact stands.named (name, place) (by simp [split])

end Stands

variable {survey : Survey} {host subscription listener : Nat} {name : String} {stage : Stage}

/-- A created runtime that is started is running. -/
theorem Stands.started (stands : Stands (.created host) survey) (subscription listener : Nat) :
    Stands (.running host subscription listener) (survey.started host subscription listener) where
  claimed := stands.claimed
  heard := by
    have before : survey.heard = [] := stands.heard
    simp [Survey.started, Survey.hooked, Survey.alter, before, Stage.heard]
  holds := by
    rintro _ ⟨⟩
    obtain ⟨engaged, heard, listeners, kept⟩ := stands.holds host rfl
    have created : (survey.standing host).engaged = some (.created, none) := engaged
    have nobody : (survey.standing host).listeners = [] := listeners
    constructor <;> simp [Survey.started, Survey.hooked, Survey.alter, Standing.hooked, Standing.driven,
      Standing.reached, Stage.engaged, Stage.subscription, Stage.listeners, created, nobody, kept]
  released other different := by
    have same : other ≠ host := fun same => different (congrArg some same.symm)
    simpa [Survey.started, Survey.hooked, Survey.alter, same] using stands.released other different
  named := by
    have kept := stands.alter_named host
      (fun standing => ((standing.hooked subscription).driven host listener).reached .running) fun _ => id
    simpa [Survey.started, Survey.hooked, Survey.alter] using kept
  distinct := stands.distinct
  unused := by
    have idle := stands.alter_unused host
      (fun standing => ((standing.hooked subscription).driven host listener).reached .running) rfl
    simpa [Survey.started, Survey.hooked, Survey.alter] using idle

/-- Whoever held the context gives it up. -/
theorem Stands.stopped (stands : Stands stage survey) (held : stage.holder? = some host) :
    Stands .idle (survey.stopped host) where
  claimed := rfl
  heard := by
    have holds := stands.holds host held
    have before := stands.heard
    cases stage with
    | idle => cases held
    | created _ =>
        simp [Survey.stopped, Survey.unhooked, Survey.alter, Standing.quit, holds.subscription, Stage.subscription,
          before, Stage.heard]
    | running _ subscription listener =>
        simp [Survey.stopped, Survey.unhooked, Survey.alter, Standing.quit, holds.subscription, Stage.subscription,
          before, Stage.heard]
  holds _ absurd := nomatch absurd
  released other _ state listener := by
    by_cases same : other = host
    · subst same
      simp only [Survey.stopped, Survey.unhooked, Survey.alter, Function.update_self, Standing.unhooked,
        Standing.quit, Option.map_eq_some_iff]
      rintro ⟨engaged, -, ⟨⟩⟩
      rfl
    · have different : stage.holder? ≠ some other := by
        rw [held]
        exact fun equal => same (Option.some.inj equal).symm
      simpa [Survey.stopped, Survey.unhooked, Survey.alter, same] using
        stands.released other different state listener
  named := by
    have kept := stands.alter_named host (fun standing => standing.quit.unhooked) fun _ => id
    simpa [Survey.stopped, Survey.unhooked, Survey.alter] using kept
  distinct := stands.distinct
  unused := by
    have idle := stands.alter_unused host (fun standing => standing.quit.unhooked) rfl
    simpa [Survey.stopped, Survey.unhooked, Survey.alter] using idle

/-- A host that comes to a context that nobody holds is its holder. -/
theorem Stands.joined (stands : Stands .idle survey) (name : String) :
    Stands (.created survey.length) (survey.joined name) where
  claimed := rfl
  heard := stands.heard
  holds := by
    rintro _ ⟨⟩
    constructor <;> simp [Survey.joined, Standing.fresh, Stage.engaged, Stage.subscription, Stage.listeners]
  released other different := by
    have same : other ≠ survey.length := fun same => different (congrArg some same.symm)
    have before := stands.released other nofun
    simpa [Survey.joined, same] using before
  named entry member := by
    obtain new | old := List.mem_cons.mp member
    · simp [new, Survey.joined, Standing.fresh]
    · obtain ⟨inside, kept⟩ := stands.named entry (List.mem_of_mem_filter old)
      refine ⟨Nat.lt_succ_of_lt inside, ?_⟩
      simpa [Survey.joined, Nat.ne_of_lt inside] using kept
  distinct := by
    have before := stands.forgotten name
    apply List.nodup_cons.mpr ⟨?_, before.distinct⟩
    intro mentioned
    obtain ⟨entry, member, same⟩ := List.mem_map.mp mentioned
    exact absurd (before.named entry member).1 (by rw [same]; exact Nat.lt_irrefl _)
  unused host := by
    by_cases same : host = survey.length
    · simp [Survey.joined, Standing.fresh, same]
    · simpa [Survey.joined, same] using stands.unused host

end ScriptHost.Session.Tenure
