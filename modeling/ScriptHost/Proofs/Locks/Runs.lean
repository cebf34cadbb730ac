/-
This file says when a journal tells of a tick that begins while a receiver of its host is held, and puts runs together
that either leave what they show as it was or end in such a tick.
-/
import ScriptHost.Proofs.Locks.Views
import ScriptHost.Proofs.Session.Nesting

namespace ScriptHost.Session.Locks

/-- A tick of a host begins while a hook is open that stirs the host. The first entry is the earliest. -/
def Entangled (stirs : Nat → Nat → Prop) : List Nat → List Entry → Prop
  | _, [] => False
  | opened, .tickBegan host _ :: rest => (∃ hook ∈ opened, stirs host hook) ∨ Entangled stirs opened rest
  | opened, .called hook _ _ :: rest => Entangled stirs (hook :: opened) rest
  | opened, .finished _ _ _ :: rest => Entangled stirs opened.tail rest
  | opened, _ :: rest => Entangled stirs opened rest

/-- Such an entry tells neither of calls nor of ticks. -/
def Plain : Entry → Prop
  | .called .. | .finished .. | .tickBegan .. => False
  | _ => True

variable {stirs : Nat → Nat → Prop} {depth : Nat} {opened : List Nat} {news more : List Entry}
  {world middle after : World}

/-- Plain entries neither open nor close a turn. -/
theorem Plain.aside {entry : Entry} (plain : Plain entry) : entry.Aside := by
  cases entry <;> first
    | exact plain.elim
    | trivial

/-- A journal is entangled in its first part, or in what follows with the turns that are open then. -/
theorem entangled_append : Entangled stirs opened (news ++ more) ↔
    Entangled stirs opened news ∨ Entangled stirs (openAfter opened news) more := by
  induction news generalizing opened with
  | nil => exact (iff_of_eq (false_or _)).symm
  | cons entry rest ih =>
      cases entry with
      | tickBegan host signal => exact (or_congr_right ih).trans or_assoc.symm
      | _ => exact ih

/-- A plain entry entangles nothing. -/
theorem entangled_plain {entry : Entry} (plain : Plain entry) :
    Entangled stirs opened (entry :: news) ↔ Entangled stirs opened news := by
  cases entry <;> first
    | exact plain.elim
    | exact Iff.rfl

/-- Everything that was begun has ended, and the world shows what it showed. -/
structure Clear (stirs : Nat → Nat → Prop) (opened : List Nat) (world after : World) : Prop where
  view : View.of after = View.of world
  news : ∃ news, Adds world after news ∧ Balanced news ∧ ¬ Entangled stirs opened news

/-- A run stops in an entangled tick, or where as many hooks more are open. -/
def Halts (stirs : Nat → Nat → Prop) (depth : Nat) (opened : List Nat) (world : World) (raised : Raised)
    (after : World) : Prop :=
  ∃ news, Adds world after news ∧ (raised = .stuck ∧ Entangled stirs opened news ∨
    raised = .exhausted ∧ (openAfter opened news).length = opened.length + depth)

namespace Clear

/-- Where nothing is written and nothing is seen the way is clear. -/
theorem still (view : View.of after = View.of world) (journal : after.journal = world.journal) :
    Clear stirs opened world after :=
  ⟨view, [], adds_nil journal, .nil, id⟩

/-- A world is clear of itself. -/
theorem refl (world : World) : Clear stirs opened world world := still rfl rfl

/-- What is clear twice is clear. -/
theorem trans (first : Clear stirs opened world middle) (second : Clear stirs opened middle after) :
    Clear stirs opened world after where
  view := second.view.trans first.view
  news := by
    obtain ⟨early, added, balanced, free⟩ := first.news
    obtain ⟨late, addedToo, balancedToo, freeToo⟩ := second.news
    refine ⟨early ++ late, added.append addedToo, balanced.append balancedToo, ?_⟩
    rw [entangled_append, balanced.openAfter_eq]
    exact not_or.mpr ⟨free, freeToo⟩

/-- What halts behind a clear part halts as a whole. -/
theorem halts {raised : Raised} (first : Clear stirs opened world middle)
    (second : Halts stirs depth opened middle raised after) : Halts stirs depth opened world raised after := by
  obtain ⟨early, added, balanced, -⟩ := first.news
  obtain ⟨late, addedToo, stops⟩ := second
  refine ⟨early ++ late, added.append addedToo, ?_⟩
  rw [entangled_append, openAfter_append, balanced.openAfter_eq]
  exact stops.imp_left fun ⟨stuck, entangled⟩ => ⟨stuck, .inr entangled⟩

/-- A plain note leaves the way clear. -/
theorem note {entry : Entry} (plain : Plain entry) (world : World) : Clear stirs opened world (world.note entry) :=
  ⟨rfl, [entry], adds_note world entry, .aside plain.aside .nil, (entangled_plain plain).not.mpr id⟩

/-- Reports leave the way clear. -/
theorem reports (world : World) (records : List TraceRecord) :
    Clear stirs opened world { world with journal := (records.map .reported).reverse ++ world.journal } := by
  induction records generalizing world with
  | nil => exact refl world
  | cons record rest ih =>
      have plain : Plain (.reported record) := trivial
      have noted : Clear stirs opened world (world.note (.reported record)) := note plain world
      have whole := noted.trans (ih _)
      rw [List.map_cons, List.reverse_cons, List.append_assoc]
      exact whole

/-- Scripts leave the way clear. -/
theorem leave (world : World) (host : Nat) (outside : Script.Outside) :
    Clear stirs opened world (world.leave host outside) :=
  (reports world outside.records).trans (still (view_leave outside) rfl)

end Clear

/-- The run returns something good or halts. -/
def Frees {α : Type} (stirs : Nat → Nat → Prop) (depth : Nat) (opened : List Nat) (good : α → World → Prop)
    (world : World) : Except Raised α → World → Prop
  | .ok value, after => Clear stirs opened world after ∧ good value after
  | .error raised, after => Halts stirs depth opened world raised after

/-- The run ends as a hook does or halts. -/
def Tries (stirs : Nat → Nat → Prop) (depth : Nat) (opened : List Nat) (world : World) :
    Except Raised Unit → World → Prop
  | .ok _, after => Clear stirs opened world after
  | .error raised, after => match raised with
    | .failed _ | .panicked _ => Clear stirs opened world after
    | .stuck | .exhausted => Halts stirs depth opened world raised after

/-- A run that halts has been tried. -/
theorem Halts.tries {raised : Raised} (halts : Halts stirs depth opened world raised after) :
    Tries stirs depth opened world (.error raised) after := by
  cases raised with
  | stuck | exhausted => exact halts
  | failed causes | panicked message =>
      obtain ⟨-, -, ⟨stuck, -⟩ | ⟨exhausted, -⟩⟩ := halts
      · cases stuck
      · cases exhausted

/-- What was tried behind a clear part was tried as a whole. -/
theorem Tries.since {result : Except Raised Unit} (tries : Tries stirs depth opened middle result after)
    (clear : Clear stirs opened world middle) : Tries stirs depth opened world result after := by
  rcases result with raised | value
  · cases raised with
    | stuck | exhausted => exact clear.halts tries
    | failed causes | panicked message => exact clear.trans tries
  · exact clear.trans tries

section Running

variable {α β : Type} {body : Run α} {next : α → Run β} {value : α} {good : α → World → Prop}
  {better : β → World → Prop}

/-- A run that returns and leaves the way clear is free. -/
theorem frees_run (ran : body.run.run world = (.ok value, after)) (clear : Clear stirs opened world after)
    (holds : good value after) : body.Ends world (Frees stirs depth opened good world) := by
  unfold Run.Ends
  rw [ran]
  exact ⟨clear, holds⟩

/-- What is free behind a clear part is free as a whole. -/
theorem frees_since (frees : body.Ends middle (Frees stirs depth opened good middle))
    (clear : Clear stirs opened world middle) : body.Ends middle (Frees stirs depth opened good world) := by
  refine Run.Ends.mono frees fun result last ends => ?_
  rcases result with raised | value
  · exact clear.halts ends
  · exact ⟨clear.trans ends.1, ends.2⟩

/-- A free run may go on with free runs. -/
theorem frees_bind (first : body.Ends world (Frees stirs depth opened good world))
    (rest : ∀ value after, Clear stirs opened world after → good value after →
      (next value).Ends after (Frees stirs depth opened better after)) :
    (body >>= next).Ends world (Frees stirs depth opened better world) := by
  rw [Run.ends_bind]
  refine Run.Ends.mono first fun result after ends => ?_
  rcases result with raised | value
  · exact ends
  · exact frees_since (rest value after ends.1 ends.2) ends.1

/-- A step that is taken without a hook is followed by the next. -/
theorem frees_step (ran : body.run.run world = (.ok value, after)) (clear : Clear stirs opened world after)
    (rest : (next value).Ends after (Frees stirs depth opened better after)) :
    (body >>= next).Ends world (Frees stirs depth opened better world) := by
  rw [Run.ends_bind]
  unfold Run.Ends
  rw [ran]
  exact frees_since rest clear

/-- Isolating a run that was tried sets it free, unless it halts. -/
theorem frees_isolate {body : Run Unit} (tries : body.Ends world (Tries stirs depth opened world)) :
    (Run.isolate body).Ends world (Frees stirs depth opened (fun _ _ => True) world) := by
  unfold Run.Ends at tries ⊢
  rw [Run.isolate_run]
  revert tries
  rcases body.run.run world with ⟨raised | value, after⟩
  · cases raised with
    | failed causes | panicked message => exact fun clear => ⟨clear, trivial⟩
    | stuck | exhausted => exact id
  · exact fun clear => ⟨clear, trivial⟩

/-- A free run may be tried. -/
theorem frees_tries {body : Run Unit} {good : Unit → World → Prop}
    (frees : body.Ends world (Frees stirs depth opened good world)) :
    body.Ends world (Tries stirs depth opened world) := by
  refine Run.Ends.mono frees fun result after ends => ?_
  rcases result with raised | value
  · exact Halts.tries ends
  · exact ends.1

/-- A free run may go on with one that is tried. -/
theorem tries_bind {next : α → Run Unit} (first : body.Ends world (Frees stirs depth opened good world))
    (rest : ∀ value after, Clear stirs opened world after → good value after →
      (next value).Ends after (Tries stirs depth opened after)) :
    (body >>= next).Ends world (Tries stirs depth opened world) := by
  rw [Run.ends_bind]
  refine Run.Ends.mono first fun result after ends => ?_
  rcases result with raised | value
  · exact Halts.tries ends
  · exact Run.Ends.mono (rest value after ends.1 ends.2) fun _ _ tries => tries.since ends.1

/-- A run that returns may go on with one that is tried. -/
theorem tries_step {next : α → Run Unit} (ran : body.run.run world = (.ok value, after))
    (clear : Clear stirs opened world after) (rest : (next value).Ends after (Tries stirs depth opened after)) :
    (body >>= next).Ends world (Tries stirs depth opened world) := by
  rw [Run.ends_bind]
  unfold Run.Ends
  rw [ran]
  exact Run.Ends.mono rest fun _ _ tries => tries.since clear

/-- A free run stays free without its value. -/
theorem frees_discard (frees : body.Ends world (Frees stirs depth opened good world)) :
    (Functor.discard body).Ends world (Frees stirs depth opened (fun _ _ => True) world) := by
  rw [Shutdown.ends_discard]
  refine Run.Ends.mono frees fun result after ends => ?_
  rcases result with raised | value
  · exact ends
  · exact ⟨ends.1, trivial⟩

/-- A fault that is isolated is reported, and the run goes on. -/
theorem frees_report {body : Run Unit} {record : Fault → TraceRecord} {next : Run β}
    (tries : body.Ends world (Tries stirs depth opened world))
    (rest : ∀ after, Clear stirs opened world after → next.Ends after (Frees stirs depth opened better after)) :
    (do
      match ← Run.isolate body with
      | none => pure ()
      | some fault => Run.report (record fault)
      next).Ends world (Frees stirs depth opened better world) := by
  refine frees_bind (frees_isolate tries) fun fault after clear _ => ?_
  cases fault with
  | none => exact rest after clear
  | some fault =>
      have plain : Plain (.reported (record fault)) := trivial
      have reported : Clear stirs opened after (after.note (.reported (record fault))) := .note plain after
      exact frees_step rfl reported (rest _ (clear.trans reported))

end Running

end ScriptHost.Session.Locks
