/-
This file compares the small runs that read and change a world, in two worlds that are alike.
-/
import ScriptHost.Proofs.Faults.Alike

namespace ScriptHost.Session

open Effect (Together Twin)

/-- What is spoken is read entry by entry. -/
theorem spoken_append (later earlier : List Entry) :
    spoken (later ++ earlier) = spoken later ++ spoken earlier :=
  List.filter_append later earlier

/-- Reports are not spoken. -/
theorem spoken_reported (records : List TraceRecord) : spoken (records.map .reported) = [] := by
  rw [spoken, List.filter_eq_nil_iff]
  intro entry member
  obtain ⟨record, -, rfl⟩ := List.mem_map.mp member
  simp [Entry.reports]

/-- Entries that are alike speak alike. -/
theorem Entry.Alike.spoken {entry other : Entry} (alike : entry.Alike other) :
    List.Forall₂ Entry.Alike (Session.spoken [entry]) (Session.spoken [other]) := by
  have kind : entry.reports = other.reports := by
    cases alike <;> rfl
  simp only [Session.spoken, List.filter_cons, List.filter_nil, kind]
  split
  · exact .cons alike .nil
  · exact .nil

/-- Hosts that are alike see the same. -/
theorem Host.Alike.sees {host other : Host} (alike : host.Alike other) : host.Sees other :=
  ⟨alike.log, alike.runtime, alike.freed⟩

/-- Hosts that are alike stay so where they are spared and see the same. -/
theorem Host.Alike.spared {host other after after' : Host} (alike : host.Alike other)
    (spares : host.Spares after) (spares' : other.Spares after') (sees : after.Sees after') :
    after.Alike after' where
  registry := by
    rw [spares.registry, spares'.registry]
    exact alike.registry
  source := by
    rw [spares.source, spares'.source]
    exact alike.source
  binder := by rw [spares.binder, spares'.binder, alike.binder]
  log := sees.log
  runtime := sees.runtime
  users := by rw [spares.users, spares'.users, alike.users]
  named := by rw [spares.named, spares'.named, alike.named]
  freed := sees.freed

/-- All hosts stay alike where they are spared and see the same. -/
theorem hosts_spared {hosts others after after' : List Host}
    (alike : List.Forall₂ Host.Alike hosts others) (spares : List.Forall₂ Host.Spares hosts after)
    (spares' : List.Forall₂ Host.Spares others after') (sees : List.Forall₂ Host.Sees after after') :
    List.Forall₂ Host.Alike after after' := by
  induction alike generalizing after after' with
  | nil =>
      cases spares
      cases spares'
      exact .nil
  | cons same rest ih =>
      cases spares with
      | cons first spares =>
          cases spares' with
          | cons first' spares' =>
              cases sees with
              | cons seen sees => exact .cons (same.spared first first' seen) (ih spares spares' sees)

namespace World.Alike

variable {world other : World}

/-- Worlds that are alike see the same. -/
theorem sees (alike : world.Alike other) : world.Sees other :=
  ⟨alike.engine, alike.draws, alike.tree, alike.claimed, alike.threads, alike.names,
    alike.hosts.imp fun _ _ => Host.Alike.sees⟩

/-- Worlds that are alike stay so where they are spared and see the same. -/
theorem spared {after after' : World} (alike : world.Alike other) (spares : world.Spares after)
    (spares' : other.Spares after') (sees : after.Sees after') : after.Alike after' where
  engine := sees.engine
  draws := sees.draws
  tree := sees.tree
  bridge := by
    rw [spares.bridge, spares'.bridge]
    exact alike.bridge
  claimed := sees.claimed
  hosts := hosts_spared alike.hosts spares.hosts spares'.hosts sees.hosts
  factories := by
    rw [spares.factories, spares'.factories]
    exact alike.factories
  threads := sees.threads
  names := sees.names
  uses := by rw [spares.uses, spares'.uses, alike.uses]
  journal := by
    obtain ⟨records, same⟩ := spares.journal
    obtain ⟨records', same'⟩ := spares'.journal
    rw [same, same', spoken_append, spoken_append, spoken_reported, spoken_reported]
    exact alike.journal

/-- The core host is alike to itself. -/
theorem core : Host.core.Alike .core :=
  ⟨⟨.nil, rfl, rfl⟩, ⟨rfl, .nil, rfl, rfl⟩, rfl, rfl, rfl, rfl, rfl, rfl⟩

/-- Worlds that are alike have hosts that are alike. -/
theorem host (alike : world.Alike other) (id : Nat) :
    ((world.hosts[id]?).getD .core).Alike ((other.hosts[id]?).getD .core) :=
  Forall₂.getD alike.hosts core id

/-- Hosts that are alike may be set. -/
theorem setHost (alike : world.Alike other) {host host' : Host} (same : host.Alike host') (id : Nat) :
    World.Alike { world with hosts := world.hosts.set id host }
      { other with hosts := other.hosts.set id host' } :=
  { alike with hosts := Forall₂.set alike.hosts same id }

/-- Notes that are alike may be written. -/
theorem note (alike : world.Alike other) {entry entry' : Entry} (same : entry.Alike entry') :
    (world.note entry).Alike (other.note entry') :=
  { alike with
    journal := by
      rw [note_journal, note_journal, ← List.singleton_append, ← List.singleton_append (l := other.journal),
        spoken_append, spoken_append]
      exact List.rel_append same.spoken alike.journal }

/-- One world may tell more than the other. -/
theorem reportLeft (alike : world.Alike other) (record : TraceRecord) :
    (world.note (.reported record)).Alike other :=
  { alike with journal := alike.journal }

/-- So may the other world. -/
theorem reportRight (alike : world.Alike other) (record : TraceRecord) :
    world.Alike (other.note (.reported record)) :=
  { alike with journal := alike.journal }

end World.Alike

namespace Run

variable {α β γ δ : Type}

/-- In worlds that are alike these runs end alike. -/
abbrev Twins (values : α → β → Prop) (left : Run α) (right : Run β) : Prop :=
  Together World.Alike (Twin values) left right

/-- One of these runs may end with a fault where the other ends well, or with another fault. -/
abbrev Cousins (left right : Run Unit) : Prop :=
  Together World.Alike (fun result other => Twin (fun _ _ => True) (isolated result) (isolated other))
    left right

/-- Plain runs do the same in worlds that are alike. -/
theorem Plain.twins {body : Run α} (plain : Plain body) : Twins Eq body body := by
  intro world other alike
  obtain ⟨same, sees, spares⟩ := plain world other alike.sees
  exact ⟨Effect.twin_eq.mpr same, alike.spared spares (plain.spares other) sees⟩

/-- Whoever reads the world may go on differently in worlds that are alike. -/
theorem twins_get {next : World → Run α} {following : World → Run β} {values : α → β → Prop}
    (rest : ∀ world other, World.Alike world other → Twins values (next world) (following other)) :
    Twins values (get >>= next) (get >>= following) := by
  intro world other alike
  rw [Stateful.run_get, Stateful.run_get]
  exact rest world other alike world other alike

/-- Changes that keep worlds alike may be made. -/
theorem twins_modify {change change' : World → World}
    (kept : ∀ world other, World.Alike world other → (change world).Alike (change' other)) :
    Twins Eq (modify change) (modify change') :=
  fun world other alike => ⟨rfl, kept world other alike⟩

/-- Notes that are alike are written in both worlds. -/
theorem twins_note {entry other : Entry} (alike : entry.Alike other) :
    Twins Eq (note entry) (note other) :=
  fun _ _ same => ⟨rfl, same.note alike⟩

/-- Hosts that are alike are read. -/
theorem twins_host (id : Nat) : Twins Host.Alike (Run.host id) (Run.host id) :=
  fun _ _ alike => ⟨alike.host id, alike⟩

/-- Hosts that are alike are set. -/
theorem twins_setHost (id : Nat) {host other : Host} (alike : host.Alike other) :
    Twins Eq (setHost id host) (setHost id other) :=
  fun _ _ same => ⟨rfl, same.setHost alike id⟩

/-- A host may change as long as both stay alike. -/
theorem twins_modifyHost (id : Nat) {change change' : Host → Host}
    (kept : ∀ host other, Host.Alike host other → (change host).Alike (change' other)) :
    Twins Eq (modifyHost id change) (modifyHost id change') :=
  (twins_host id).then fun host other alike => twins_setHost id (kept host other alike)

/-- Registries that are alike are read, or both runs are stuck. -/
theorem twins_registry (id : Nat) :
    Twins Scheduler.AlikeRegistries (Run.registry id) (Run.registry id) := by
  apply (twins_host id).then
  intro host other alike
  dsimp only
  rw [alike.registry.locked]
  split
  · exact Effect.together_throw rfl
  · exact Effect.together_pure alike.registry

/-- Registries that are alike are set. -/
theorem twins_setRegistry (id : Nat) {registry other : Registry}
    (alike : Scheduler.AlikeRegistries registry other) :
    Twins Eq (setRegistry id registry) (setRegistry id other) := by
  have put : Twins Eq (modifyHost id fun host => { host with registry })
      (modifyHost id fun host => { host with registry := other }) :=
    twins_modifyHost id fun _ _ same => { same with registry := alike }
  apply put.then
  intro _ _ _
  rw [alike.registered]
  exact twins_note (.same _)

/-- A registry may change as long as both stay alike. -/
theorem twins_modifyRegistry (id : Nat) {change change' : Registry → Registry}
    (kept : ∀ registry other, Scheduler.AlikeRegistries registry other →
      Scheduler.AlikeRegistries (change registry) (change' other)) :
    Twins Eq (modifyRegistry id change) (modifyRegistry id change') :=
  twins_modifyHost id fun _ _ alike => { alike with registry := kept _ _ alike.registry }

/-- A runtime changes in both worlds. -/
theorem twins_modifyRuntime (id : Nat) (change : Runtime → Runtime) :
    Twins Eq (modifyRuntime id change) (modifyRuntime id change) :=
  twins_modifyHost id fun _ _ alike => { alike with runtime := congrArg (Option.map change) alike.runtime }

/-- Hooks of one number are used equally often. -/
theorem twins_use {hooked other : Hooked} (same : hooked.id = other.id) :
    Twins Eq (use hooked) (use other) := by
  intro world world' alike
  have counted : (use hooked).run.run world =
      (.ok ((world.uses[hooked.id]?).getD 0),
        world.count (world.uses.set hooked.id ((world.uses[hooked.id]?).getD 0 + 1))) := rfl
  have counted' : (use other).run.run world' =
      (.ok ((world'.uses[other.id]?).getD 0),
        world'.count (world'.uses.set other.id ((world'.uses[other.id]?).getD 0 + 1))) := rfl
  rw [counted, counted', same, alike.uses]
  exact ⟨rfl, { alike with uses := rfl }⟩

/-- Hooks that are like each other take the same number. -/
theorem twins_hooked (label : String) {hook other : Hook Operation}
    (like : Hook.Like Command.Alike hook other) :
    Twins Hooked.Alike (hooked label hook) (hooked label other) := by
  intro world world' alike
  have length : world.uses.length = world'.uses.length := by rw [alike.uses]
  exact ⟨⟨length, rfl, like⟩, { alike with uses := congrArg (· ++ [0]) alike.uses }⟩

/-- Hooks that are the same take the same number and stay the same. -/
theorem twins_hooked_same (label : String) {hook other : Hook Operation}
    (same : Hook.Same Command.Alike hook other) :
    Twins Hooked.Same (hooked label hook) (hooked label other) := by
  intro world world' alike
  have length : world.uses.length = world'.uses.length := by rw [alike.uses]
  exact ⟨⟨length, rfl, same⟩, { alike with uses := congrArg (· ++ [0]) alike.uses }⟩

/-- An absorbed fault leaves no more than a report. -/
theorem Cousins.isolate {left right : Run Unit} (cousins : Cousins left right) :
    Twins (fun _ _ => True) (isolate left) (isolate right) := by
  intro world other alike
  rw [isolate_run, isolate_run]
  exact cousins world other alike

/-- A test that has the same outcome decides both runs. -/
theorem twins_ite {holds holds' : Prop} [Decidable holds] [Decidable holds'] {values : α → β → Prop}
    {yes no : Run α} {yes' no' : Run β} (same : holds ↔ holds') (both : Twins values yes yes')
    (neither : Twins values no no') :
    Twins values (if holds then yes else no) (if holds' then yes' else no') := by
  by_cases case : holds
  · rw [if_pos case, if_pos (same.mp case)]
    exact both
  · rw [if_neg case, if_neg (fun holds' => case (same.mpr holds'))]
    exact neither

/-- A run that is refused is refused in both worlds. -/
theorem twins_refused {holds : Prop} [Decidable holds] {raised : Raised} {values : α → β → Prop}
    {left : Run α} {right : Run β} (later : Twins values left right) :
    Twins values (if holds then (throw raised : Run Unit) >>= fun _ => left else left)
      (if holds then (throw raised : Run Unit) >>= fun _ => right else right) := by
  apply twins_ite Iff.rfl
  · exact (Effect.together_throw rfl : Twins (fun _ _ => False) _ _).then fun _ _ same => same.elim
  · exact later

/-- A preface comes before both runs or before none. -/
theorem twins_prefaced {holds : Prop} [Decidable holds] {values : α → β → Prop} {preface : Run Unit}
    {left : Run α} {right : Run β} (first : Twins Eq preface preface) (later : Twins values left right) :
    Twins values (if holds then preface >>= fun _ => left else left)
      (if holds then preface >>= fun _ => right else right) := by
  apply twins_ite Iff.rfl
  · exact first.then fun _ _ _ => later
  · exact later

/-- A fault is told in one world if it came in that world alone. -/
theorem twins_told (record record' : Fault → TraceRecord) (fault fault' : Option Fault) :
    Twins Eq
      (match fault with
        | none => return ()
        | some fault => report (record fault))
      (match fault' with
        | none => return ()
        | some fault => report (record' fault)) := by
  intro world other alike
  cases fault with
  | none =>
      cases fault' with
      | none => exact ⟨rfl, alike⟩
      | some fault' => exact ⟨rfl, alike.reportRight _⟩
  | some fault =>
      cases fault' with
      | none => exact ⟨rfl, alike.reportLeft _⟩
      | some fault' => exact ⟨rfl, (alike.reportLeft _).reportRight _⟩

/-- Reports of faults make no difference to what follows them. -/
theorem Twins.reporting {next following : Option Fault → Run α} {rest rest' : Run α}
    {record record' : Fault → TraceRecord} {values : α → α → Prop} (later : Twins values rest rest')
    (well : next none = rest) (badly : ∀ fault, next (some fault) = report (record fault) >>= fun _ => rest)
    (well' : following none = rest')
    (badly' : ∀ fault, following (some fault) = report (record' fault) >>= fun _ => rest')
    (fault fault' : Option Fault) : Twins values (next fault) (following fault') := by
  intro world other alike
  cases fault with
  | none =>
      cases fault' with
      | none =>
          rw [well, well']
          exact later world other alike
      | some fault' =>
          rw [well, badly']
          exact later world _ (alike.reportRight _)
  | some fault =>
      cases fault' with
      | none =>
          rw [badly, well']
          exact later _ other (alike.reportLeft _)
      | some fault' =>
          rw [badly, badly']
          exact later _ _ ((alike.reportLeft _).reportRight _)

/-- Cousins may be reported on, and the runs go on in the same way. -/
theorem Cousins.reporting {left right : Run Unit} {next following : Option Fault → Run α} {rest rest' : Run α}
    {record record' : Fault → TraceRecord} {values : α → α → Prop} (cousins : Cousins left right)
    (later : Twins values rest rest') (well : next none = rest)
    (badly : ∀ fault, next (some fault) = report (record fault) >>= fun _ => rest)
    (well' : following none = rest')
    (badly' : ∀ fault, following (some fault) = report (record' fault) >>= fun _ => rest') :
    Twins values (Run.isolate left >>= next) (Run.isolate right >>= following) :=
  cousins.isolate.then fun fault fault' _ => later.reporting well badly well' badly' fault fault'

/-- Twins are cousins. -/
theorem Twins.cousins {left right : Run Unit} (twins : Twins Eq left right) : Cousins left right := by
  apply twins.mono
  intro result other same
  rw [Effect.twin_eq.mp same]
  rcases other with raised | value
  · cases raised <;> trivial
  · trivial

/-- Isolated twins are twins. -/
theorem Twins.isolate {left right : Run Unit} (twins : Twins Eq left right) :
    Twins Eq (isolate left) (isolate right) := by
  intro world other alike
  obtain ⟨same, after⟩ := twins world other alike
  rw [isolate_run, isolate_run, Effect.twin_eq.mp same]
  exact ⟨Effect.twin_eq.mpr rfl, after⟩

/-- Both runs are finished by runs that are alike, whether or not they are left early. -/
theorem Twins.afterwards {left : Run α} {right : Run β} {values : α → β → Prop} {finish finish' : Run Unit}
    (body : Twins values left right) (finished : Twins Eq finish finish') :
    Twins values (afterwards left finish) (afterwards right finish') := by
  rw [afterwards_eq, afterwards_eq]
  apply Together.tryCatch
  · apply body.then
    intro value other same
    exact finished.then fun _ _ _ => Effect.together_pure same
  · intro raised
    exact finished.then fun _ _ _ => Effect.together_throw rfl

end Run

/-- Alike hooks are called alike. -/
structure Caller.Fair (call : Caller) : Prop where
  hook : ∀ {hooked other : Hooked} (arguments : Arguments), hooked.Alike other →
    Run.Cousins (call.hook hooked arguments) (call.hook other arguments)
  same : ∀ {hooked other : Hooked} (arguments : Arguments), hooked.Same other →
    Run.Twins Eq (call.hook hooked arguments) (call.hook other arguments)
  perform : ∀ {commands others : List (Command Operation)},
    List.Forall₂ Command.Alike commands others →
    Run.Twins Eq (call.perform commands) (call.perform others)

end ScriptHost.Session
