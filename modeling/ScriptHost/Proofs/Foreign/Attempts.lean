/-
This file says what a foreign engine is asked while an answer of unknown length is read into buffers that grow.
-/
import ScriptHost.Foreign.Engine

namespace ScriptHost.Foreign

/-- An exchange keeps the state that its call came upon. -/
structure Exchange (State : Type) where
  call : Call
  state : State
  reply : Reply

/-- This table writes down every exchange. The latest one stands last. -/
def recorded {State : Type} (table : Table State) : Table (State × List (Exchange State)) :=
  fun call (state, past) =>
    ((table call state).1, (table call state).2, past ++ [⟨call, state, (table call state).1⟩])

/-- A call is made again with more room as long as the room does not do for what the call came upon. -/
structure Loop (State Answer : Type) where
  query : Nat → Call
  larger : State → Nat → Option Nat
  settle : State → Answer
  giveUp : Answer
  rises : ∀ state room more, larger state room = some more → room < more

namespace Loop

variable {State Other Answer : Type}

def run (loop : Loop State Answer) (table : Table State) : Nat → Nat → State → Answer × State
  | 0, _, state => (loop.giveUp, state)
  | attempts + 1, room, state =>
      match loop.larger state room with
      | some more => run loop table attempts more (table (loop.query room) state).2
      | none => (loop.settle state, (table (loop.query room) state).2)

/-- The same loop looks at a part of a larger state. -/
def through (loop : Loop State Answer) (view : Other → State) : Loop Other Answer where
  query := loop.query
  larger state := loop.larger (view state)
  settle state := loop.settle (view state)
  giveUp := loop.giveUp
  rises state := loop.rises (view state)

/-- Every call of this row came upon something that its room did not do for, and each next one had more room. -/
inductive Grew (loop : Loop State Answer) : Nat → List (Exchange State) → Nat → Prop
  | none (room : Nat) : Grew loop room [] room
  | again {room more last : Nat} {exchange : Exchange State} {rest : List (Exchange State)}
      (asked : exchange.call = loop.query room) (short : loop.larger exchange.state room = some more)
      (risen : room < more) (later : Grew loop more rest last) : Grew loop room (exchange :: rest) last

/-- The row ends with the first call that its room did for, or with the last call that is allowed. -/
def Tells (loop : Loop State Answer) (attempts first : Nat) (exchanges : List (Exchange State)) (answer : Answer) :
    Prop :=
  ∃ earlier last room, exchanges = earlier ++ [last] ∧ earlier.length < attempts ∧ loop.Grew first earlier room ∧
    last.call = loop.query room ∧
      match loop.larger last.state room with
      | none => answer = loop.settle last.state
      | some _ => earlier.length + 1 = attempts ∧ answer = loop.giveUp

variable {loop : Loop State Answer} {attempts first room : Nat} {exchange : Exchange State}
  {exchanges : List (Exchange State)} {answer : Answer}

/-- An answer that fits settles the reading at once. -/
theorem tells_settled (asked : exchange.call = loop.query first) (fits : loop.larger exchange.state first = none) :
    loop.Tells (attempts + 1) first [exchange] (loop.settle exchange.state) := by
  refine ⟨[], exchange, first, rfl, Nat.succ_pos attempts, .none first, asked, ?_⟩
  rw [fits]

/-- An answer that does not fit at the last attempt ends the reading. -/
theorem tells_given_up {more : Nat} (asked : exchange.call = loop.query first)
    (short : loop.larger exchange.state first = some more) : loop.Tells 1 first [exchange] loop.giveUp := by
  refine ⟨[], exchange, first, rfl, Nat.one_pos, .none first, asked, ?_⟩
  rw [short]
  exact ⟨rfl, rfl⟩

/-- An answer that does not fit is asked for again with more room. -/
theorem Tells.again {more : Nat} (asked : exchange.call = loop.query first)
    (short : loop.larger exchange.state first = some more) (later : loop.Tells attempts more exchanges answer) :
    loop.Tells (attempts + 1) first (exchange :: exchanges) answer := by
  obtain ⟨earlier, last, room, rfl, few, grew, lastAsked, ending⟩ := later
  refine ⟨exchange :: earlier, last, room, rfl, Nat.succ_lt_succ few,
    .again asked short (loop.rises _ _ _ short) grew, lastAsked, ?_⟩
  cases fits : loop.larger last.state room with
  | none =>
      rw [fits] at ending
      exact ending
  | some more =>
      rw [fits] at ending
      exact ⟨congrArg (· + 1) ending.1, ending.2⟩

/-- To write the calls down makes no difference, and what is written down tells of the answer. -/
theorem run_recorded (loop : Loop State Answer) (table : Table State) (attempts first : Nat) (state : State)
    (past : List (Exchange State)) :
    ∃ exchanges, (loop.through Prod.fst).run (recorded table) attempts first (state, past) =
        ((loop.run table attempts first state).1, (loop.run table attempts first state).2, past ++ exchanges) ∧
      (if attempts = 0 then exchanges = []
      else loop.Tells attempts first exchanges (loop.run table attempts first state).1) := by
  induction attempts generalizing first state past with
  | zero => exact ⟨[], by rw [List.append_nil]; rfl, rfl⟩
  | succ attempts ih =>
      let exchange : Exchange State := ⟨loop.query first, state, (table (loop.query first) state).1⟩
      have larger : (loop.through Prod.fst).larger (state, past) first = loop.larger state first := rfl
      rw [run, run, larger]
      cases short : loop.larger state first with
      | none => exact ⟨[exchange], rfl, tells_settled rfl short⟩
      | some more =>
          obtain ⟨exchanges, same, tells⟩ := ih more (table (loop.query first) state).2 (past ++ [exchange])
          rw [List.append_assoc] at same
          refine ⟨exchange :: exchanges, same, ?_⟩
          cases attempts with
          | zero =>
              rw [show exchanges = [] from tells]
              exact tells_given_up rfl short
          | succ attempts => exact Tells.again rfl short tells

/-- What is written down tells of the run as it is. -/
theorem run_tells (loop : Loop State Answer) (table : Table State) {attempts : Nat} (tries : attempts ≠ 0) (first : Nat)
    (state : State) :
    let run := (loop.through Prod.fst).run (recorded table) attempts first (state, [])
    loop.run table attempts first state = (run.1, run.2.1) ∧ loop.Tells attempts first run.2.2 run.1 := by
  obtain ⟨exchanges, same, tells⟩ := loop.run_recorded table attempts first state []
  rw [if_neg tries] at tells
  rw [same]
  exact ⟨rfl, tells⟩

/-- No more is asked than there are attempts. -/
theorem Tells.length_le (tells : loop.Tells attempts first exchanges answer) : exchanges.length ≤ attempts := by
  obtain ⟨earlier, last, -, rfl, few, -⟩ := tells
  rw [List.length_append, List.length_singleton]
  exact few

/-- Where one change of the room is enough, the second call is the last one. -/
theorem Tells.twice (tells : loop.Tells attempts first exchanges answer) (enough : 2 ≤ attempts)
    (steady : ∀ former ∈ exchanges, ∀ latter ∈ exchanges, ∀ room more,
      loop.larger former.state room = some more → loop.larger latter.state more = none) :
    exchanges.length ≤ 2 ∧ ∃ last ∈ exchanges, answer = loop.settle last.state := by
  obtain ⟨earlier, last, room, rfl, few, grew, asked, ending⟩ := tells
  have among : last ∈ earlier ++ [last] := List.mem_append_right earlier List.mem_cons_self
  have fits : earlier.length ≤ 1 ∧ loop.larger last.state room = none := by
    cases grew with
    | none =>
        cases short : loop.larger last.state first with
        | none => exact ⟨Nat.zero_le 1, rfl⟩
        | some more =>
            rw [short] at ending
            have alone := ending.1
            rw [List.length_nil] at alone
            omega
    | again asked short risen later =>
        cases later with
        | none => exact ⟨Nat.le_refl 1, steady _ List.mem_cons_self _ among _ _ short⟩
        | again asked' short' =>
            have calm := steady _ List.mem_cons_self _ (List.mem_cons_of_mem _ List.mem_cons_self) _ _ short
            rw [calm] at short'
            exact nomatch short'
  rw [fits.2] at ending
  refine ⟨?_, last, among, ending⟩
  rw [List.length_append, List.length_singleton]
  omega

/-- The last call either had room enough, or no other one is allowed. -/
theorem Tells.ends (tells : loop.Tells attempts first exchanges answer) :
    ∃ earlier last room, exchanges = earlier ++ [last] ∧ loop.Grew first earlier room ∧ last.call = loop.query room ∧
      (loop.larger last.state room = none ∧ answer = loop.settle last.state ∨
        ∃ more, loop.larger last.state room = some more ∧ exchanges.length = attempts ∧ answer = loop.giveUp) := by
  obtain ⟨earlier, last, room, rfl, -, grew, asked, ending⟩ := tells
  refine ⟨earlier, last, room, rfl, grew, asked, ?_⟩
  cases short : loop.larger last.state room with
  | none =>
      rw [short] at ending
      exact Or.inl ⟨rfl, ending⟩
  | some more =>
      rw [short] at ending
      rw [List.length_append, List.length_singleton]
      exact Or.inr ⟨more, rfl, ending⟩

/-- What stays the same takes two calls at most. -/
theorem Tells.steady {Kind : Type} {view : State → Kind} {kind : Kind} {grown : Nat → Kind → Option Nat}
    {settled : Kind → Answer} (tells : loop.Tells attempts first exchanges answer) (enough : 2 ≤ attempts)
    (larger : ∀ state room, loop.larger state room = grown room (view state))
    (settles : ∀ state, loop.settle state = settled (view state))
    (once : ∀ room more, grown room kind = some more → grown more kind = none)
    (same : ∀ exchange ∈ exchanges, view exchange.state = kind) :
    exchanges.length ≤ 2 ∧ answer = settled kind := by
  obtain ⟨few, last, among, answered⟩ := tells.twice enough fun former here latter there room more short => by
    rw [larger, same former here] at short
    rw [larger, same latter there]
    exact once room more short
  rw [answered, settles, same last among]
  exact ⟨few, rfl⟩

end Loop

end ScriptHost.Foreign
