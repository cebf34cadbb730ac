/-
This file keeps all subscriptions in one list and says when the tables of a bridge are views of it.
-/
import Mathlib.Data.List.Nodup
import ScriptHost.Event.Bridge

namespace ScriptHost.Event

namespace Kind

/-- A kind that is found by a name has this name. -/
theorem name_ofName? {text : String} {kind : Kind} (found : ofName? text = some kind) :
    kind.name = text := by
  unfold ofName? at found
  have named := List.find?_some found
  exact eq_of_beq named

/-- Every kind is found by its name. -/
@[simp] theorem ofName?_name (kind : Kind) : ofName? kind.name = some kind := by
  cases kind <;> decide

end Kind

namespace Table

variable {Key Handler : Type} [DecidableEq Key]

/-- A subscription that is added comes last under its key. -/
theorem under_add (key other : Key) (subscription : Subscription Handler)
    (table : Table Key Handler) :
    (table.add key subscription).under other =
      if other = key then table.under other ++ [subscription] else table.under other := by
  induction table with
  | nil =>
      by_cases same : other = key
      · simp [add, under, same]
      · simp [add, under, same, Ne.symm same]
  | cons entry rest ih =>
      obtain ⟨first, held⟩ := entry
      by_cases found : first = key
      · subst found
        by_cases same : other = first
        · simp [add, under, same]
        · simp [add, under, same, Ne.symm same]
      · by_cases same : first = other
        · have different : other ≠ key := same ▸ found
          simp [add, under, same, different]
        · simp [add, under, found, same, ih]

/-- An erased subscription is missing under its key and nowhere else. -/
theorem under_erase (key other : Key) (id : Nat) (table : Table Key Handler) :
    (table.erase key id).under other =
      if other = key then (table.under other).filter fun subscription => subscription.id != id
      else table.under other := by
  induction table with
  | nil => simp [erase, under]
  | cons entry rest ih =>
      obtain ⟨first, held⟩ := entry
      by_cases found : first = key
      · subst found
        by_cases same : other = first
        · simp [erase, under, same]
        · simp [erase, under, same, Ne.symm same]
      · by_cases same : first = other
        · have different : other ≠ key := same ▸ found
          simp [erase, under, same, different]
        · simp [erase, under, found, same, ih]

end Table

/-- A subscription is made for a built-in event or for the payloads of a name. -/
inductive Topic where
  | typed (kind : Kind)
  | raw (name : String)
  deriving DecidableEq, Repr

namespace Topic

def name : Topic → String
  | typed kind => kind.name
  | raw name => name

/-- Events of a built-in name are heard by its typed subscriptions only. -/
def heard (name : String) : Topic :=
  match Kind.ofName? name with
  | some kind => typed kind
  | none => raw name

end Topic

structure Member (Hand : Type) where
  id : Nat
  topic : Topic
  hand : Hand

/-- The members that are left stand in the order in which they were issued. -/
structure Ledger (Hand : Type) where
  issued : List Nat
  live : List (Member Hand)
  dropped : Nat

namespace Ledger

variable {Hand Handler : Type}

def empty : Ledger Hand := ⟨[], [], 0⟩

def subscribe (ledger : Ledger Hand) (topic : Topic) (hand : Hand) : Ledger Hand × Nat :=
  let id := ledger.issued.length
  ({ ledger with issued := ledger.issued ++ [id], live := ledger.live ++ [⟨id, topic, hand⟩] }, id)

def holds (ledger : Ledger Hand) (name : String) (id : Nat) : Bool :=
  ledger.live.any fun member => member.id == id && member.topic.name == name

def unsubscribe (ledger : Ledger Hand) (name : String) (id : Nat) : Ledger Hand × Bool :=
  if ledger.holds name id then
    ({ ledger with live := ledger.live.filter fun member => member.id != id }, true)
  else (ledger, false)

def on (ledger : Ledger Hand) (topic : Topic) : List (Member Hand) :=
  ledger.live.filter fun member => member.topic = topic

def count (ledger : Ledger Hand) (name : String) : Nat :=
  (ledger.on (.heard name)).length

def drop (ledger : Ledger Hand) : Ledger Hand :=
  { ledger with dropped := ledger.dropped + 1 }

/-- Numbers are issued once each, and the members that are left keep the order of their numbers. -/
structure Orderly (ledger : Ledger Hand) : Prop where
  counted : ledger.issued = List.range ledger.issued.length
  ordered : (ledger.live.map Member.id).Sublist ledger.issued

namespace Orderly

variable {ledger : Ledger Hand}

/-- The empty ledger is in order. -/
theorem empty : (Ledger.empty : Ledger Hand).Orderly := ⟨rfl, List.Sublist.slnil⟩

/-- No id is issued twice. -/
theorem once (orderly : ledger.Orderly) : ledger.issued.Nodup := by
  rw [orderly.counted]
  exact List.nodup_range

/-- Living members have distinct ids. -/
theorem distinct (orderly : ledger.Orderly) : (ledger.live.map Member.id).Nodup :=
  orderly.once.sublist orderly.ordered

/-- A ledger stays in order when a member comes. -/
theorem subscribe (orderly : ledger.Orderly) (topic : Topic) (hand : Hand) :
    (ledger.subscribe topic hand).1.Orderly where
  counted := by
    simp only [Ledger.subscribe, List.length_append, List.length_singleton, List.range_succ]
    rw [← orderly.counted]
  ordered := by
    simp only [Ledger.subscribe, List.map_append, List.map_cons, List.map_nil]
    exact orderly.ordered.append (List.Sublist.refl _)

/-- A ledger stays in order when a member leaves. -/
theorem unsubscribe (orderly : ledger.Orderly) (name : String) (id : Nat) :
    (ledger.unsubscribe name id).1.Orderly := by
  unfold Ledger.unsubscribe
  split
  · exact ⟨orderly.counted, (List.filter_sublist.map _).trans orderly.ordered⟩
  · exact orderly

/-- A ledger stays in order when an event is dropped. -/
theorem drop (orderly : ledger.Orderly) : ledger.drop.Orderly :=
  ⟨orderly.counted, orderly.ordered⟩

/-- A number belongs to one member, and so to one topic. -/
theorem same {first second : Member Hand} (orderly : ledger.Orderly) (left : first ∈ ledger.live)
    (right : second ∈ ledger.live) (equal : first.id = second.id) : first = second :=
  List.inj_on_of_nodup_map orderly.distinct left right equal

end Orderly

variable {ledger : Ledger Hand} {name : String} {id : Nat}

/-- A ledger holds the members that live under the name. -/
theorem holds_iff :
    ledger.holds name id = true ↔
      ∃ member ∈ ledger.live, member.id = id ∧ member.topic.name = name := by
  simp [holds]

/-- A topic lists its living members. -/
theorem mem_on {topic : Topic} {member : Member Hand} :
    member ∈ ledger.on topic ↔ member ∈ ledger.live ∧ member.topic = topic := by
  simp [on]

end Ledger

namespace Bridge

variable {Hand Handler : Type} {of : Hand → Handler}

/-- A bridge keeps the number and the handler of a member. -/
def entry (of : Hand → Handler) (member : Member Hand) : Subscription Handler :=
  ⟨member.id, of member.hand⟩

/-- Each name of a bridge lists the members of its topic. -/
structure Represents (of : Hand → Handler) (bridge : Bridge Handler) (ledger : Ledger Hand) : Prop where
  next : bridge.next = ledger.issued.length
  typed : ∀ kind, bridge.typed.under kind = (ledger.on (.typed kind)).map (entry of)
  raw : ∀ name, bridge.raw.under name = (ledger.on (.raw name)).map (entry of)
  dropped : bridge.dropped = ledger.dropped

variable {bridge : Bridge Handler} {ledger : Ledger Hand}

namespace Represents

/-- The empty ledger represents the empty bridge. -/
theorem empty : Represents of (.empty : Bridge Handler) (.empty : Ledger Hand) :=
  ⟨rfl, fun _ => rfl, fun _ => rfl, rfl⟩

/-- A new member comes last under its topic. -/
theorem on_subscribe (topic other : Topic) (hand : Hand) :
    ((ledger.subscribe topic hand).1.on other).map (entry of) =
      if other = topic then
        (ledger.on other).map (entry of) ++ [⟨ledger.issued.length, of hand⟩]
      else (ledger.on other).map (entry of) := by
  by_cases same : other = topic
  · simp [Ledger.subscribe, Ledger.on, same, entry]
  · simp [Ledger.subscribe, Ledger.on, same, Ne.symm same]

/-- A typed subscription is represented by a new member. -/
theorem subscribe (represents : Represents of bridge ledger) (kind : Kind) (hand : Hand) :
    Represents of (bridge.subscribe kind (of hand)).1 (ledger.subscribe (.typed kind) hand).1 where
  next := by simp [Bridge.subscribe, Ledger.subscribe, represents.next]
  typed other := by
    rw [on_subscribe]
    simp only [Bridge.subscribe, Table.under_add, represents.typed, represents.next, Topic.typed.injEq]
  raw name := by
    rw [on_subscribe]
    simpa [Bridge.subscribe] using represents.raw name
  dropped := represents.dropped

/-- A raw subscription is represented by a new member. -/
theorem subscribeRaw (represents : Represents of bridge ledger) (name : String) (hand : Hand) :
    Represents of (bridge.subscribeRaw name (of hand)).1 (ledger.subscribe (.raw name) hand).1 where
  next := by simp [Bridge.subscribeRaw, Ledger.subscribe, represents.next]
  typed kind := by
    rw [on_subscribe]
    simpa [Bridge.subscribeRaw] using represents.typed kind
  raw other := by
    rw [on_subscribe]
    simp only [Bridge.subscribeRaw, Table.under_add, represents.raw, represents.next, Topic.raw.injEq]
  dropped := represents.dropped

/-- A dropped event is counted in both. -/
theorem drop (represents : Represents of bridge ledger) :
    Represents of bridge.drop ledger.drop :=
  ⟨represents.next, represents.typed, represents.raw, by simp [Bridge.drop, Ledger.drop, represents.dropped]⟩

/-- The subscribers of a name are counted alike. -/
theorem count (represents : Represents of bridge ledger) (name : String) :
    bridge.count name = ledger.count name := by
  unfold Bridge.count Ledger.count Topic.heard
  cases Kind.ofName? name with
  | some kind => simp [represents.typed]
  | none => simp [represents.raw]

/-- An id is found under a topic exactly if its member lives there. -/
theorem any_entry (topic : Topic) (id : Nat) :
    ((ledger.on topic).map (entry of)).any (fun subscription => subscription.id == id) =
      decide (∃ member ∈ ledger.live, member.id = id ∧ member.topic = topic) := by
  rw [Bool.eq_iff_iff, decide_eq_true_iff, List.any_eq_true]
  constructor
  · rintro ⟨subscription, member, found⟩
    obtain ⟨kept, inside, rfl⟩ := List.mem_map.mp member
    obtain ⟨lives, same⟩ := Ledger.mem_on.mp inside
    exact ⟨kept, lives, eq_of_beq found, same⟩
  · rintro ⟨kept, lives, rfl, same⟩
    exact ⟨entry of kept, List.mem_map_of_mem (Ledger.mem_on.mpr ⟨lives, same⟩), beq_self_eq_true _⟩

/-- A typed id is found in the bridge exactly if its member lives. -/
theorem typed_holds (represents : Represents of bridge ledger) (kind : Kind) (id : Nat) :
    bridge.typed.holds kind id =
      decide (∃ member ∈ ledger.live, member.id = id ∧ member.topic = .typed kind) := by
  rw [Table.holds, represents.typed, any_entry]

/-- A raw id is found in the bridge exactly if its member lives. -/
theorem raw_holds (represents : Represents of bridge ledger) (name : String) (id : Nat) :
    bridge.raw.holds name id =
      decide (∃ member ∈ ledger.live, member.id = id ∧ member.topic = .raw name) := by
  rw [Table.holds, represents.raw, any_entry]

/-- A member that goes is missed by the names of its own topic only. -/
theorem on_gone (orderly : ledger.Orderly) {member : Member Hand} (lives : member ∈ ledger.live)
    (topic : Topic) :
    (({ ledger with live := ledger.live.filter fun other => other.id != member.id }).on topic).map
        (entry of) =
      if topic = member.topic then
        ((ledger.on topic).map (entry of)).filter fun subscription => subscription.id != member.id
      else (ledger.on topic).map (entry of) := by
  have swapped : ({ ledger with live := ledger.live.filter fun other => other.id != member.id }).on
      topic = (ledger.on topic).filter fun other => other.id != member.id := by
    simp only [Ledger.on, List.filter_filter, Bool.and_comm]
  rw [swapped]
  split
  · rw [List.filter_map]
    rfl
  · next different =>
      congr 1
      rw [List.filter_eq_self]
      intro other inside
      obtain ⟨present, same⟩ := Ledger.mem_on.mp inside
      rw [bne_iff_ne]
      intro equal
      exact different (same.symm.trans (by rw [orderly.same present lives equal]))

/-- The bridge erases a member under the table and the name of its topic. -/
theorem gone (represents : Represents of bridge ledger) (orderly : ledger.Orderly)
    {member : Member Hand} (lives : member ∈ ledger.live) :
    (∀ kind, member.topic = .typed kind →
      Represents of { bridge with typed := bridge.typed.erase kind member.id }
        { ledger with live := ledger.live.filter fun other => other.id != member.id }) ∧
    (∀ name, member.topic = .raw name →
      Represents of { bridge with raw := bridge.raw.erase name member.id }
        { ledger with live := ledger.live.filter fun other => other.id != member.id }) := by
  constructor
  · intro kind same
    refine ⟨represents.next, fun other => ?_, fun name => ?_, represents.dropped⟩
    · rw [on_gone orderly lives, Table.under_erase, represents.typed, same]
      simp only [Topic.typed.injEq]
    · rw [on_gone orderly lives, same, if_neg (by simp)]
      exact represents.raw name
  · intro name same
    refine ⟨represents.next, fun kind => ?_, fun other => ?_, represents.dropped⟩
    · rw [on_gone orderly lives, same, if_neg (by simp)]
      exact represents.typed kind
    · rw [on_gone orderly lives, Table.under_erase, represents.raw, same]
      simp only [Topic.raw.injEq]

/-- What no raw member holds is left alone. -/
theorem unsubscribeRaw_absent {name : String} {id : Nat} (represents : Represents of bridge ledger)
    (absent : ¬ ∃ member ∈ ledger.live, member.id = id ∧ member.topic = .raw name) :
    bridge.unsubscribeRaw name id = (bridge, false) := by
  rw [Bridge.unsubscribeRaw, represents.raw_holds, if_neg (by simpa using absent)]

/-- A raw subscription that lives is erased. -/
theorem unsubscribeRaw_present {name : String} {id : Nat} (represents : Represents of bridge ledger)
    (present : ∃ member ∈ ledger.live, member.id = id ∧ member.topic = .raw name) :
    bridge.unsubscribeRaw name id = ({ bridge with raw := bridge.raw.erase name id }, true) := by
  rw [Bridge.unsubscribeRaw, represents.raw_holds, if_pos (by simpa using present)]

/-- The bridge finds a raw member although it tries the table of built-in events first. -/
theorem unsubscribe_raw (represents : Represents of bridge ledger) (orderly : ledger.Orderly)
    {member : Member Hand} {name : String} (lives : member ∈ ledger.live)
    (topic : member.topic = .raw name) :
    bridge.unsubscribe name member.id = ({ bridge with raw := bridge.raw.erase name member.id }, true) := by
  have found := represents.unsubscribeRaw_present ⟨member, lives, rfl, topic⟩
  unfold Bridge.unsubscribe
  cases Kind.ofName? name with
  | none => exact found
  | some kind =>
      have untyped : bridge.typed.holds kind member.id = false := by
        rw [represents.typed_holds, decide_eq_false_iff_not]
        rintro ⟨other, present, equal, typed⟩
        rw [orderly.same present lives equal, topic] at typed
        cases typed
      simp only [untyped, Bool.false_eq_true, if_false]
      exact found

/-- A typed subscription that lives is erased. -/
theorem unsubscribe_typed (represents : Represents of bridge ledger) {member : Member Hand}
    {kind : Kind} (lives : member ∈ ledger.live) (topic : member.topic = .typed kind) :
    bridge.unsubscribe kind.name member.id =
      ({ bridge with typed := bridge.typed.erase kind member.id }, true) := by
  have held : bridge.typed.holds kind member.id = true := by
    rw [represents.typed_holds, decide_eq_true_iff]
    exact ⟨member, lives, rfl, topic⟩
  simp only [Bridge.unsubscribe, Kind.ofName?_name, held, if_true]

/-- A subscription that is not held is not erased. -/
theorem unsubscribe_absent {name : String} {id : Nat} (represents : Represents of bridge ledger)
    (absent : ledger.holds name id = false) : bridge.unsubscribe name id = (bridge, false) := by
  have nobody : ∀ topic : Topic, topic.name = name →
      ¬ ∃ member ∈ ledger.live, member.id = id ∧ member.topic = topic := by
    rintro topic named ⟨member, lives, same, rfl⟩
    have held := Ledger.holds_iff.mpr ⟨member, lives, same, named⟩
    rw [absent] at held
    cases held
  have raw := represents.unsubscribeRaw_absent (nobody (.raw name) rfl)
  unfold Bridge.unsubscribe
  cases named : Kind.ofName? name with
  | none => exact raw
  | some kind =>
      have untyped : bridge.typed.holds kind id = false := by
        rw [represents.typed_holds, decide_eq_false_iff_not]
        exact nobody (.typed kind) (Kind.name_ofName? named)
      simp only [untyped, Bool.false_eq_true, if_false]
      exact raw

/-- Both give up the same member, whichever table of the bridge holds it. -/
theorem unsubscribe (represents : Represents of bridge ledger) (orderly : ledger.Orderly)
    (name : String) (id : Nat) :
    (bridge.unsubscribe name id).2 = (ledger.unsubscribe name id).2 ∧
      Represents of (bridge.unsubscribe name id).1 (ledger.unsubscribe name id).1 := by
  unfold Ledger.unsubscribe
  split
  · next held =>
      obtain ⟨member, lives, rfl, rfl⟩ := Ledger.holds_iff.mp held
      have gone := represents.gone orderly lives
      cases topic : member.topic with
      | typed kind =>
          rw [Topic.name, represents.unsubscribe_typed lives topic]
          exact ⟨rfl, gone.1 kind topic⟩
      | raw name =>
          rw [Topic.name, represents.unsubscribe_raw orderly lives topic]
          exact ⟨rfl, gone.2 name topic⟩
  · next absent =>
      rw [represents.unsubscribe_absent (Bool.eq_false_iff.mpr absent)]
      exact ⟨rfl, represents⟩

end Represents

end Bridge

end ScriptHost.Event
