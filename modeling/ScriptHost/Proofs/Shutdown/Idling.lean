/-
This file singles out the steps that change nothing of what a host closes with.
-/
import ScriptHost.Proofs.Shutdown.Passages

namespace ScriptHost.Session.Shutdown

/-- Receivers stand as before, no listener has come, and the runtime is as far as it was. -/
structure Rests (host after : Host) : Prop where
  outline : Outline.of after.registry = .of host.registry
  listeners : after.source.listeners.Sublist host.source.listeners
  runtime : engaged after = engaged host

structure Idles (host : Nat) (world after : World) : Prop where
  hosts : world.hosts.length ≤ after.hosts.length
  outline : outlineOf after host = outlineOf world host
  housed : Housed world → Housed after
  tuned : Tuned host world → Tuned host after
  journal : ∃ entries, after.journal = entries ++ world.journal ∧
    ∀ entry ∈ entries, entry.idle host = true

/-- No host has done more than rest. -/
structure Rested (host : Nat) (world after : World) : Prop where
  idles : Idles host world after
  hosts : ∀ id, Rests (world.hostOf id) (after.hostOf id)

variable {host id : Nat} {calm : Prop} {world middle after : World} {entry : Entry}
  {entries journal : List Entry} {outline : Outline}

/-- A host rests when nothing happens. -/
theorem Rests.refl (host : Host) : Rests host host := ⟨rfl, .refl _, rfl⟩

/-- A host that rests twice has rested. -/
theorem Rests.trans {first second third : Host} (early : Rests first second) (late : Rests second third) :
    Rests first third :=
  ⟨late.outline.trans early.outline, late.listeners.trans early.listeners, late.runtime.trans early.runtime⟩

/-- Doing nothing is idle. -/
theorem Idles.refl (world : World) : Idles host world world :=
  ⟨Nat.le_refl _, rfl, id, id, [], rfl, by simp⟩

/-- Two idle stretches make one. -/
theorem Idles.trans (first : Idles host world middle) (second : Idles host middle after) :
    Idles host world after where
  hosts := Nat.le_trans first.hosts second.hosts
  outline := second.outline.trans first.outline
  housed housed := second.housed (first.housed housed)
  tuned tuned := second.tuned (first.tuned tuned)
  journal := by
    obtain ⟨earlier, same, idle⟩ := first.journal
    obtain ⟨later, same', idle'⟩ := second.journal
    refine ⟨later ++ earlier, by rw [same', same, List.append_assoc], fun entry member => ?_⟩
    rcases List.mem_append.mp member with member | member
    · exact idle' entry member
    · exact idle entry member

/-- Nobody does more than rest when nothing happens. -/
theorem Rested.refl (world : World) : Rested host world world :=
  ⟨.refl world, fun _ => .refl _⟩

section Journal

variable (idle : ∀ entry ∈ entries, entry.idle host = true)

include idle

/-- Idle entries close nothing. -/
theorem closed_idles : closed host (entries ++ journal) = closed host journal :=
  unmoved (fun _ _ idle => closed_idle idle) idle journal

/-- Idle entries settle no tick. -/
theorem balance_idles (choose : Tick.Signal → Bool) :
    balance host choose (entries ++ journal) = balance host choose journal :=
  unmoved (fun _ _ idle => balance_idle idle) idle journal

/-- Idle entries leave the loose units as they are. -/
theorem spare_idles (choose : Tick.Signal → Bool) :
    spare host choose (entries ++ journal) = spare host choose journal :=
  unmoved (fun _ _ idle => spare_idle idle) idle journal

/-- Idle entries leave a registry as tidy as it was. -/
theorem Tidy.idles (tidy : Tidy host outline journal) : Tidy host outline (entries ++ journal) := by
  induction entries with
  | nil => exact tidy
  | cons entry entries ih =>
      obtain ⟨first, rest⟩ := List.forall_mem_cons.mp idle
      exact (ih rest).silent (telling_idle first)

/-- Idle entries begin no turn of a receiver that was shut out. -/
theorem Hushed.idles (hushed : Hushed host journal) : Hushed host (entries ++ journal) := by
  induction entries with
  | nil => exact hushed
  | cons entry entries ih =>
      obtain ⟨first, rest⟩ := List.forall_mem_cons.mp idle
      exact hushed_idle first (ih rest)

/-- Idle entries shut nobody out. -/
theorem strict_idles : Strict host outline (entries ++ journal) ↔ Strict host outline journal :=
  iff_of_eq (unmoved (fun _ _ idle => propext (strict_silent (telling_idle idle))) idle journal)

end Journal

/-- What is idle is a passage that owes nothing. -/
theorem Idles.passage (idles : Idles host world after) (sound : Sound host world) :
    Passage host [] calm world after := by
  obtain ⟨entries, same, idle⟩ := idles.journal
  refine ⟨⟨idles.housed sound.housed, idles.tuned sound.tuned, ?_, ?_⟩, ?_, fun _ => ?_⟩
  · rw [idles.outline, same]
    exact sound.tidy.idles idle
  · rw [same]
    exact sound.hushed.idles idle
  · have since : world.journal <:+ after.journal := by
      rw [same]
      exact List.suffix_append entries world.journal
    refine ⟨since, idles.hosts, Nat.le_of_eq (by rw [idles.outline]),
      fun id _ out => by rwa [idles.outline], fun choose => ?_, fun choose => ?_⟩
    · simp [same, balance_idles idle]
    · exact Int.le_of_eq (by rw [same, spare_idles idle])
  · refine ⟨by rw [idles.outline], fun id => by rw [idles.outline], fun id loose => ?_, fun strict => ?_⟩
    · rwa [idles.outline] at loose
    · rw [idles.outline, same]
      exact (strict_idles idle).mpr strict

/-- A passage may be followed by something idle. -/
theorem Passage.idle {owed : List Tick.Signal} {origin : World}
    (passage : Passage host owed calm origin world) (idles : Idles host world after) :
    Passage host owed calm origin after := by
  have rested : Passage host [] True world after := idles.passage passage.sound
  have whole := (passage.both rested).weaken fun holds => ⟨holds, trivial⟩
  rwa [List.append_nil] at whole

/-- If all hosts rest, each of them does, and so does one that is not there. -/
theorem rests_hostOf (hosts : List.Forall₂ Rests world.hosts after.hosts) (id : Nat) :
    Rests (world.hostOf id) (after.hostOf id) :=
  Forall₂.getD hosts (.refl _) id

/-- Whatever rests in this way changes nothing that counts. -/
theorem idles_resting (hosts : List.Forall₂ Rests world.hosts after.hosts)
    (named : ∀ entry ∈ after.names.hosts, entry ∈ world.names.hosts)
    (journal : ∃ entries, after.journal = entries ++ world.journal ∧
      ∀ entry ∈ entries, entry.idle host = true) : Idles host world after where
  hosts := Nat.le_of_eq hosts.length_eq
  outline := (rests_hostOf hosts host).outline
  journal := journal
  housed housed := by
    have length := hosts.length_eq
    refine ⟨?_, fun entry member => ?_, fun id listening member => ?_⟩
    · rw [← length]
      exact housed.core
    · rw [← length]
      exact housed.named entry (named entry member)
    · rw [← length]
      exact housed.listeners id listening ((rests_hostOf hosts id).listeners.subset member)
  tuned tuned := by
    obtain ⟨entries, same, idle⟩ := journal
    have rests := rests_hostOf hosts host
    have engaged : engagement after host = engagement world host := rests.runtime
    refine ⟨fun id other listening member => ?_, ?_, fun listening member => ?_, fun shut => ?_⟩
    · exact tuned.apart id other listening ((rests_hostOf hosts id).listeners.subset member)
    · exact Nat.le_trans (rests.listeners.countP_le) tuned.once
    · rw [engaged]
      exact tuned.known listening (rests.listeners.subset member)
    · rw [same, closed_idles idle] at shut
      rw [engaged]
      obtain ⟨shutDown, silent⟩ := tuned.shut shut
      exact ⟨shutDown, fun listening member => silent listening (rests.listeners.subset member)⟩

/-- All hosts rest when nothing happens. -/
theorem rests_same (hosts : List Host) : List.Forall₂ Rests hosts hosts :=
  List.forall₂_same.mpr fun host _ => .refl host

/-- An idle entry is written idly. -/
theorem idles_note (idle : entry.idle host = true) (world : World) : Idles host world (world.note entry) :=
  idles_resting (rests_same _) (fun _ member => member) ⟨[entry], rfl, by simpa using idle⟩

/-- What is kept beside the hosts does not count. -/
theorem idles_aside (hosts : after.hosts = world.hosts) (names : after.names.hosts = world.names.hosts)
    (journal : after.journal = world.journal) : Idles host world after := by
  apply idles_resting
  · rw [hosts]
    exact rests_same _
  · rw [names]
    exact fun _ member => member
  · exact ⟨[], journal, by simp⟩

/-- Only the host that changes has to rest. -/
theorem rests_set {hosts : List Host} {state : Host} (rests : Rests ((hosts[id]?).getD .core) state) :
    List.Forall₂ Rests hosts (hosts.set id state) := by
  rw [List.forall₂_iff_get]
  refine ⟨by simp, fun index inside inside' => ?_⟩
  by_cases here : id = index
  · subst here
    rw [List.getElem?_eq_getElem inside] at rests
    simpa using rests
  · simpa [here] using Rests.refl hosts[index]

/-- What is spared rests. -/
theorem Spares.rests {state other : Host} (spares : state.Spares other) : Rests state other where
  outline := by rw [spares.registry]
  listeners := by rw [spares.source]
  runtime := by
    have state := spares.state
    have listener := spares.listener
    unfold engaged
    revert state listener
    cases other.runtime <;> cases Host.runtime _ <;> simp_all

/-- If a world is spared, all its hosts rest. -/
theorem rests_spared (spares : world.Spares after) : List.Forall₂ Rests world.hosts after.hosts :=
  spares.hosts.imp fun _ _ spares => Spares.rests spares

/-- A world that is spared idles. -/
theorem idles_spared (spares : world.Spares after) : Idles host world after := by
  obtain ⟨records, same⟩ := spares.journal
  apply idles_resting (rests_spared spares)
  · rw [spares.named]
    exact fun _ member => member
  · refine ⟨_, same, fun entry member => ?_⟩
    obtain ⟨record, -, rfl⟩ := List.mem_map.mp member
    rfl

section Running

variable {α : Type} {body : Run α} {origin : World} {owed : List Tick.Signal}

/-- Such a run idles wherever it begins. -/
def Idle (host : Nat) (body : Run α) : Prop :=
  ∀ world, Idles host world (body.run.run world).2

/-- A run that idles where it begins passes. -/
theorem passes_idles (idles : Idles host world (body.run.run world).2)
    (passage : Passage host [] True origin world) : Passes host [] origin world body :=
  passage.trans (idles.passage passage.sound)

/-- An idle run passes wherever it begins. -/
theorem Idle.passes (idle : Idle host body) (passage : Passage host [] True origin world) :
    Passes host [] origin world body :=
  passes_idles (idle world) passage

/-- Idle runs may follow each other. -/
theorem Idle.bind {β : Type} {next : α → Run β} (first : Idle host body)
    (rest : ∀ value, Idle host (next value)) : Idle host (body >>= next) := by
  intro world
  rw [Stateful.run_bind]
  have early := first world
  revert early
  rcases body.run.run world with ⟨raised | value, middle⟩
  · exact id
  · exact fun early => early.trans (rest value middle)

/-- A plain run is idle. -/
theorem idle_plain (plain : Run.Plain body) : Idle host body :=
  fun world => idles_spared (plain.spares world)

/-- Returning a value is idle. -/
theorem idle_pure (value : α) : Idle host (pure value : Run α) := fun world => .refl world

/-- Writing an idle entry is idle. -/
theorem idle_note (idle : entry.idle host = true) : Idle host (Run.note entry) :=
  fun world => idles_note idle world

/-- Looking a host up is idle. -/
theorem idle_host (place : Nat) : Idle host (Run.host place) := fun world => .refl world

/-- A plain run has nobody do more than rest. -/
theorem rested_plain (plain : Run.Plain body) (world : World) :
    body.Ends world fun _ after => Rested host world after :=
  ⟨idles_spared (plain.spares world), rests_hostOf (rests_spared (plain.spares world))⟩

/-- A change that lets its own host rest lets all rest. -/
theorem rested_modifyHost (place : Nat) {change : Host → Host} (rests : ∀ state, Rests state (change state))
    (world : World) : (Run.modifyHost place change).Ends world fun _ after => Rested host world after :=
  ⟨idles_resting (rests_set (rests _)) (fun _ member => member) ⟨[], rfl, by simp⟩,
    rests_hostOf (rests_set (rests _))⟩

/-- The run goes on knowing that no host has done more than rest. -/
theorem Passes.rested {β : Type} {next : α → Run β}
    (rests : body.Ends world fun _ after => Rested host world after)
    (passage : Passage host [] True origin world)
    (rest : ∀ value after, Rested host world after → Passage host [] True origin after →
      Passes host owed origin after (next value)) :
    Passes host owed origin world (body >>= next) := by
  unfold Passes
  rw [Run.ends_bind]
  apply Run.Ends.mono rests
  intro result after rested
  have later : Passage host [] True origin after := passage.idle rested.idles
  cases result with
  | ok value => exact rest value after rested later
  | error raised => exact later.owe.weaken fun _ => trivial

/-- A change that lets its host rest is idle. -/
theorem idle_modifyHost (place : Nat) {change : Host → Host} (rests : ∀ state, Rests state (change state)) :
    Idle host (Run.modifyHost place change) := by
  intro world
  have rested : Rested host world _ := rested_modifyHost place rests world
  exact rested.idles

end Running

end ScriptHost.Session.Shutdown
