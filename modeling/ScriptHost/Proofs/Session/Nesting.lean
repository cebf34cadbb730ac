/-
This file reads off a journal which calls of hooks stand inside which.
-/
import Mathlib.Data.List.Basic
import ScriptHost.Proofs.Session.Registries

namespace ScriptHost.Session

/-- Such an entry neither begins nor ends a call of a hook. -/
def Entry.Aside : Entry → Prop
  | .called .. | .finished .. => False
  | _ => True

/-- Every call of a hook has its end, and what the hook does stands between. The first entry is the earliest. -/
inductive Balanced : List Entry → Prop
  | nil : Balanced []
  | aside {entry : Entry} {rest : List Entry} (plain : entry.Aside) (balanced : Balanced rest) :
      Balanced (entry :: rest)
  | call {inside rest : List Entry} (hook : Nat) (label : String) (arguments : Arguments) (ending : Ending)
      (within : Balanced inside) (balanced : Balanced rest) :
      Balanced (.called hook label arguments :: (inside ++ .finished hook arguments ending :: rest))

/-- These are the broadcasts and the calls that stand inside no other call. -/
def surface : Nat → List Entry → List Entry
  | _, [] => []
  | 0, .called hook label arguments :: rest => .called hook label arguments :: surface 1 rest
  | depth + 1, .called _ _ _ :: rest => surface (depth + 2) rest
  | depth, .finished _ _ _ :: rest => surface (depth - 1) rest
  | 0, .broadcast host signal :: rest => .broadcast host signal :: surface 0 rest
  | depth, _ :: rest => surface depth rest

/-- The hooks whose calls are still open stand with the innermost one first. -/
def openAfter : List Nat → List Entry → List Nat
  | opened, [] => opened
  | opened, .called hook _ _ :: rest => openAfter (hook :: opened) rest
  | opened, .finished _ _ _ :: rest => openAfter opened.tail rest
  | opened, _ :: rest => openAfter opened rest

variable {news more rest : List Entry}

/-- Balanced calls follow each other. -/
theorem Balanced.append (first : Balanced news) (second : Balanced more) : Balanced (news ++ more) := by
  induction first with
  | nil => exact second
  | aside plain _ ih => exact .aside plain ih
  | call hook label arguments ending within _ _ ih =>
      rw [List.cons_append, List.append_assoc]
      exact .call hook label arguments ending within ih

section Surface

/-- A call comes to the surface unless another one is open. -/
theorem surface_called (depth hook : Nat) (label : String) (arguments : Arguments) :
    surface depth (.called hook label arguments :: rest) =
      (if depth = 0 then [.called hook label arguments] else []) ++ surface (depth + 1) rest := by
  cases depth <;> rfl

/-- An entry beside calls comes to the surface where it stands. -/
theorem surface_aside {entry : Entry} (plain : entry.Aside) (depth : Nat) :
    surface depth (entry :: rest) = surface depth [entry] ++ surface depth rest := by
  cases entry <;> first
    | exact plain.elim
    | cases depth <;> rfl

/-- Inside a call nothing comes to the surface. -/
theorem surface_inside {entry : Entry} (plain : entry.Aside) (depth : Nat) : surface (depth + 1) [entry] = [] := by
  cases entry <;> first
    | exact plain.elim
    | rfl

/-- Nothing shows of what stands inside a call. -/
theorem Balanced.hidden (balanced : Balanced news) (depth : Nat) (rest : List Entry) :
    surface (depth + 1) (news ++ rest) = surface (depth + 1) rest := by
  induction balanced generalizing depth rest with
  | nil => rfl
  | aside plain _ ih => rw [List.cons_append, surface_aside plain, surface_inside plain, ih, List.nil_append]
  | call hook label arguments ending _ _ inner outer =>
      rw [List.cons_append, surface_called, if_neg (Nat.succ_ne_zero depth), List.nil_append, List.append_assoc, inner]
      exact outer depth rest

/-- Of a call that has ended only its beginning comes to the surface. -/
theorem surface_call (within : Balanced news) (hook : Nat) (label : String) (arguments : Arguments) (ending : Ending)
    (rest : List Entry) :
    surface 0 (.called hook label arguments :: (news ++ .finished hook arguments ending :: rest)) =
      .called hook label arguments :: surface 0 rest := by
  rw [surface_called, if_pos rfl, within.hidden]
  rfl

/-- Balanced calls come to the surface before the rest. -/
theorem Balanced.surface_append (balanced : Balanced news) (rest : List Entry) :
    surface 0 (news ++ rest) = surface 0 news ++ surface 0 rest := by
  induction balanced with
  | nil => rfl
  | aside plain _ ih => rw [List.cons_append, surface_aside plain, ih, ← List.append_assoc, ← surface_aside plain]
  | call hook label arguments ending within _ _ ih =>
      rw [List.cons_append, List.append_assoc, List.cons_append, surface_call within, surface_call within, ih,
        List.cons_append]

end Surface

section Opened

variable {opened : List Nat}

/-- What is open is read off one part of a journal after the other. -/
theorem openAfter_append (opened : List Nat) (news more : List Entry) :
    openAfter opened (news ++ more) = openAfter (openAfter opened news) more := by
  induction news generalizing opened with
  | nil => rfl
  | cons entry rest ih => cases entry <;> exact ih _

/-- Entries beside calls open nothing. -/
theorem openAfter_aside {entry : Entry} (plain : entry.Aside) :
    openAfter opened (entry :: rest) = openAfter opened rest := by
  cases entry <;> first
    | exact plain.elim
    | rfl

/-- Balanced calls leave open what was open. -/
theorem Balanced.openAfter_eq (balanced : Balanced news) (opened : List Nat) : openAfter opened news = opened := by
  induction balanced generalizing opened with
  | nil => rfl
  | aside plain _ ih => rw [openAfter_aside plain, ih]
  | call hook label arguments ending _ _ inner outer =>
      rw [openAfter, openAfter_append, inner, openAfter, outer]
      rfl

end Opened

/-- The news stand in the journal in reverse. -/
def Adds (before after : World) (news : List Entry) : Prop :=
  after.journal = news.reverse ++ before.journal

/-- Where the journal is the same nothing was added. -/
theorem adds_nil {before after : World} (same : after.journal = before.journal) : Adds before after [] := same

/-- What was added twice was added in order. -/
theorem Adds.append {first second third : World} (early : Adds first second news) (late : Adds second third more) :
    Adds first third (news ++ more) := by
  unfold Adds at *
  rw [late, early, List.reverse_append, List.append_assoc]

/-- A note adds itself. -/
theorem adds_note (world : World) (entry : Entry) : Adds world (world.note entry) [entry] := rfl

end ScriptHost.Session
