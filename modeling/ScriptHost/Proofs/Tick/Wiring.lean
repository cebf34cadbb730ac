/-
This file says how tick sources hang on a bridge, and shows that subscriptions come and go without cutting them off.
-/
import ScriptHost.Proofs.Event.Ledger
import ScriptHost.Session.World

namespace ScriptHost.Event.Bridge

variable {Handler : Type}

/-- Only the name itself can lose a subscription. -/
theorem unsubscribe_typed_under (bridge : Bridge Handler) (name : String) (id : Nat) (kind : Kind) :
    (bridge.unsubscribe name id).1.typed.under kind =
      if kind.name = name then (bridge.typed.under kind).filter fun subscription => subscription.id != id
      else bridge.typed.under kind := by
  have absent (held : ¬ (bridge.typed.holds kind id) = true) :
      (bridge.typed.under kind).filter (fun subscription => subscription.id != id) = bridge.typed.under kind := by
    refine List.filter_eq_self.mpr fun subscription among => ?_
    rw [bne_iff_ne]
    exact fun same => held (List.any_eq_true.mpr ⟨subscription, among, beq_iff_eq.mpr same⟩)
  have raw : (bridge.unsubscribeRaw name id).1.typed = bridge.typed := by
    unfold unsubscribeRaw
    split <;> rfl
  unfold unsubscribe
  cases found : Kind.ofName? name with
  | none =>
      have other : kind.name ≠ name := by
        rintro rfl
        rw [Kind.ofName?_name] at found
        cases found
      rw [if_neg other, raw]
  | some own =>
      obtain rfl := Kind.name_ofName? found
      dsimp only
      by_cases same : kind = own
      · subst same
        rw [if_pos rfl]
        split
        · rw [Table.under_erase, if_pos rfl]
        · next held => rw [raw, absent held]
      · have other : kind.name ≠ own.name := by
          intro equal
          have both := Kind.ofName?_name kind
          rw [equal, Kind.ofName?_name] at both
          exact same (Option.some.inj both).symm
        rw [if_neg other]
        split
        · rw [Table.under_erase, if_neg same]
        · rw [raw]

/-- Whoever unsubscribes, no subscriber to raw payloads comes. -/
theorem unsubscribe_raw_under (bridge : Bridge Handler) (name : String) (id : Nat) (other : String) :
    ((bridge.unsubscribe name id).1.raw.under other).Sublist (bridge.raw.under other) := by
  have raw : ((bridge.unsubscribeRaw name id).1.raw.under other).Sublist (bridge.raw.under other) := by
    unfold unsubscribeRaw
    split
    · rw [Table.under_erase]
      split
      · exact List.filter_sublist
      · exact .refl _
    · exact .refl _
  unfold unsubscribe
  split
  · split
    · exact .refl _
    · exact raw
  · exact raw

/-- Numbers that are given back are not issued again. -/
@[simp] theorem unsubscribe_next (bridge : Bridge Handler) (name : String) (id : Nat) :
    (bridge.unsubscribe name id).1.next = bridge.next := by
  have raw : (bridge.unsubscribeRaw name id).1.next = bridge.next := by
    unfold unsubscribeRaw
    split <;> rfl
  unfold unsubscribe
  split
  · split
    · rfl
    · exact raw
  · exact raw

end ScriptHost.Event.Bridge

namespace ScriptHost.Session

open Event (Bridge Subscription)

def Handler.isSource (host : Nat) : Handler → Bool
  | .source place => place == host
  | .hook _ => false

/-- A handler is the source of at most one host. -/
theorem Handler.isSource_iff {host : Nat} {handler : Handler} : handler.isSource host ↔ handler = .source host := by
  cases handler with
  | hook hooked => exact ⟨nofun, nofun⟩
  | source place =>
      rw [Handler.source.injEq]
      exact beq_iff_eq

/-- These subscriptions stand for the source of a host. -/
def sourced (host : Nat) (subscriptions : List (Subscription Handler)) : List (Subscription Handler) :=
  subscriptions.filter fun subscription => subscription.handler.isSource host

/-- A source is subscribed once under the number that it keeps, and not at all if it keeps none. -/
structure Wired (subscriptions : List (Subscription Handler)) (next : Nat) (kept : Nat → Option Nat) : Prop where
  held : ∀ host, (sourced host subscriptions).map Subscription.id = (kept host).toList
  distinct : (subscriptions.map Subscription.id).Nodup
  issued : ∀ subscription ∈ subscriptions, subscription.id < next

namespace Wired

variable {subscriptions : List (Subscription Handler)} {next : Nat} {kept later : Nat → Option Nat} {host id : Nat}

section Change

variable (wired : Wired subscriptions next kept)

include wired

/-- A number that a source keeps is that of its subscription. -/
theorem subscribed (keeps : kept host = some id) :
    ∃ subscription ∈ subscriptions, subscription.handler.isSource host ∧ subscription.id = id := by
  have held := wired.held host
  rw [keeps] at held
  have among : id ∈ (sourced host subscriptions).map Subscription.id := held ▸ List.mem_singleton_self id
  obtain ⟨subscription, found, same⟩ := List.mem_map.mp among
  obtain ⟨stands, ours⟩ := List.mem_filter.mp found
  exact ⟨subscription, stands, ours, same⟩

/-- The subscription of a source has the number that the source keeps. -/
theorem keeps {subscription : Subscription Handler} (stands : subscription ∈ subscriptions)
    (ours : subscription.handler = .source host) : kept host = some subscription.id := by
  have among : subscription.id ∈ (sourced host subscriptions).map Subscription.id :=
    List.mem_map_of_mem (List.mem_filter.mpr ⟨stands, Handler.isSource_iff.mpr ours⟩)
  rw [wired.held] at among
  exact Option.mem_toList.mp among

/-- A number that is kept has been issued. -/
theorem kept_lt (keeps : kept host = some id) : id < next := by
  obtain ⟨subscription, stands, -, rfl⟩ := wired.subscribed keeps
  exact wired.issued subscription stands

/-- A number may be skipped. -/
theorem skip : Wired subscriptions (next + 1) kept :=
  ⟨wired.held, wired.distinct, fun subscription held => Nat.lt_succ_of_lt (wired.issued subscription held)⟩

/-- The number of a new subscription is kept by its source, if it has one. -/
theorem grow (handler : Handler)
    (keeps : ∀ host, (later host).toList = (kept host).toList ++ if handler.isSource host then [next] else []) :
    Wired (subscriptions ++ [⟨next, handler⟩]) (next + 1) later where
  held host := by
    have held := wired.held host
    rw [sourced] at held ⊢
    rw [List.filter_append, List.map_append, held, keeps, List.filter_singleton]
    cases handler.isSource host <;> rfl
  distinct := by
    rw [List.map_append]
    refine List.nodup_append.mpr ⟨wired.distinct, List.nodup_singleton _, ?_⟩
    rintro old among new last rfl
    obtain ⟨subscription, stands, rfl⟩ := List.mem_map.mp among
    exact Nat.ne_of_lt (wired.issued subscription stands) (List.mem_singleton.mp last)
  issued subscription held := by
    rcases List.mem_append.mp held with old | new
    · exact Nat.lt_succ_of_lt (wired.issued subscription old)
    · rw [List.mem_singleton.mp new]
      exact Nat.lt_succ_self _

/-- A source whose subscription goes gives up its number. -/
theorem drop (gone : Nat) (keeps : ∀ host, (later host).toList = (kept host).toList.filter (· != gone)) :
    Wired (subscriptions.filter fun subscription => subscription.id != gone) next later where
  held host := by
    have held := wired.held host
    rw [keeps, ← held, List.filter_map, sourced, sourced, List.filter_filter, List.filter_filter]
    refine congrArg (List.map Subscription.id) (List.filter_congr fun subscription _ => ?_)
    exact Bool.and_comm _ _
  distinct := wired.distinct.sublist (List.filter_sublist.map Subscription.id)
  issued subscription held := wired.issued subscription (List.mem_filter.mp held).1

/-- No two sources keep the same number. -/
theorem kept_once {other : Nat} (keeps : kept host = some id) (too : kept other = some id) : host = other := by
  obtain ⟨subscription, stands, ours, same⟩ := wired.subscribed keeps
  obtain ⟨another, standsToo, theirs, equal⟩ := wired.subscribed too
  have one : subscription = another :=
    List.inj_on_of_nodup_map wired.distinct stands standsToo (same.trans equal.symm)
  subst one
  rw [Handler.isSource_iff] at ours theirs
  exact Handler.source.inj (ours.symm.trans theirs)

/-- The subscription of a source divides the others, and none of them is of the same source. -/
theorem divides (keeps : kept host = some id) :
    ∃ before later, subscriptions = before ++ ⟨id, .source host⟩ :: later ∧
      (∀ subscription ∈ before, subscription.handler ≠ .source host) ∧
      ∀ subscription ∈ later, subscription.handler ≠ .source host := by
  obtain ⟨⟨number, handler⟩, stands, ours, rfl⟩ := wired.subscribed keeps
  obtain rfl := Handler.isSource_iff.mp ours
  obtain ⟨before, later, rfl⟩ := List.append_of_mem stands
  have held := congrArg List.length (wired.held host)
  rw [keeps, List.length_map, sourced, List.filter_append, List.filter_cons, if_pos ours, List.length_append,
    List.length_cons] at held
  have alone (others : List (Subscription Handler))
      (none : (others.filter fun subscription => subscription.handler.isSource host).length = 0) :
      ∀ subscription ∈ others, subscription.handler ≠ .source host := fun subscription among same =>
    List.filter_eq_nil_iff.mp (List.eq_nil_of_length_eq_zero none) subscription among (Handler.isSource_iff.mpr same)
  change _ = 1 at held
  exact ⟨before, later, rfl, alone before (by omega), alone later (by omega)⟩

end Change

end Wired

end ScriptHost.Session
