/-
This file applies operators to values.
-/
import ScriptHost.Script.Program

namespace ScriptHost.Script

/-- An integer result must fit into 64 bits. -/
def fit (value : Int) : Except String Value :=
  if -0x8000000000000000 ≤ value ∧ value < 0x8000000000000000 then .ok (.integer (Int64.ofInt value))
  else .error "arithmetic overflow"

def integerArithmetic (operator : Operator) (left right : Int64) : Except String Value :=
  match operator with
  | .add => fit (left.toInt + right.toInt)
  | .subtract => fit (left.toInt - right.toInt)
  | .multiply => fit (left.toInt * right.toInt)
  | .divide =>
      if right = 0 then .error "division by zero" else fit (left.toInt.tdiv right.toInt)
  | .remainder =>
      if right = 0 then .error "division by zero"
      else if right = -1 ∧ left = Int64.minValue then .error "arithmetic overflow"
      else fit (left.toInt.tmod right.toInt)
  | _ => .error "no such operator"

/-- The remainder is exact and has the sign of the dividend. -/
def floatRemainder (left right : Float) : Float :=
  match Decimal.double.read left.toBits.toNat, Decimal.double.read right.toBits.toNat with
  | ⟨negative, .finite mantissa exponent _⟩, ⟨_, .finite mantissa' exponent' _⟩ =>
      let shared := min exponent exponent'
      let rest := mantissa <<< (exponent - shared).toNat % mantissa' <<< (exponent' - shared).toNat
      let size := (Float.ofNat rest).scaleB shared
      if negative then -size else size
  | ⟨_, .zero⟩, ⟨_, .finite ..⟩ => left
  | ⟨_, .zero⟩, ⟨_, .infinite⟩ => left
  | ⟨_, .finite ..⟩, ⟨_, .infinite⟩ => left
  | _, _ => Float.ofBits 0x7ff8000000000000

def floatArithmetic (operator : Operator) (left right : Float) : Except String Value :=
  match operator with
  | .add => .ok (.float (left + right))
  | .subtract => .ok (.float (left - right))
  | .multiply => .ok (.float (left * right))
  | .divide => .ok (.float (left / right))
  | .remainder => .ok (.float (floatRemainder left right))
  | _ => .error "no such operator"

/-- The sum of two maps takes the entry of the right one where both have a key. -/
def mergeEntries (left right : List (String × Value)) : List (String × Value) :=
  right.foldl (fun entries entry => Json.put entry.1 entry.2 entries) left

def arithmetic (operator : Operator) (left right : Value) : Except String Value :=
  match left, right with
  | .integer left, .integer right => integerArithmetic operator left right
  | .integer left, .float right => floatArithmetic operator left.toFloat right
  | .float left, .integer right => floatArithmetic operator left right.toFloat
  | .float left, .float right => floatArithmetic operator left right
  | .string left, right =>
      if operator = .add then .ok (.string (left ++ right.display)) else .error "no such operator"
  | left, .string right =>
      if operator = .add then .ok (.string (left.display ++ right)) else .error "no such operator"
  | .character left, .character right =>
      if operator = .add then .ok (.string (left.toString ++ right.toString))
      else .error "no such operator"
  | .array left, .array right =>
      if operator = .add then .ok (.array (left ++ right)) else .error "no such operator"
  | .map left, .map right =>
      if operator = .add then .ok (.map (mergeEntries left right)) else .error "no such operator"
  | _, _ => .error "no such operator"

def orderingHolds (operator : Operator) (result : Ordering) : Bool :=
  match operator with
  | .less => result == .lt
  | .lessEqual => result != .gt
  | .greater => result == .gt
  | _ => result != .lt

def floatHolds (operator : Operator) (left right : Float) : Bool :=
  match operator with
  | .less => left < right
  | .lessEqual => left ≤ right
  | .greater => right < left
  | _ => right ≤ left

/-- Values of different types are in no order; containers of one type cannot be compared. -/
def ordered (operator : Operator) (left right : Value) : Except String Bool :=
  match left, right with
  | .integer left, .integer right => .ok (orderingHolds operator (compare left.toInt right.toInt))
  | .integer left, .float right => .ok (floatHolds operator left.toFloat right)
  | .float left, .integer right => .ok (floatHolds operator left right.toFloat)
  | .float left, .float right => .ok (floatHolds operator left right)
  | .string left, .string right => .ok (orderingHolds operator (compare left right))
  | .string left, .character right => .ok (orderingHolds operator (compare left right.toString))
  | .character left, .string right => .ok (orderingHolds operator (compare left.toString right))
  | .character left, .character right => .ok (orderingHolds operator (compare left.toNat right.toNat))
  | .boolean left, .boolean right => .ok (orderingHolds operator (compare left right))
  | .unit, .unit => .ok false
  | left, right =>
      if left.typeName = right.typeName then .error "no such operator" else .ok false

/-- A character equals the text that holds it alone. -/
def same (left right : Value) : Bool :=
  match left, right with
  | .string left, .character right => left == right.toString
  | .character left, .string right => left.toString == right
  | left, right => left.equals right

def containsText (part text : List Char) : Bool :=
  match text with
  | [] => part.isEmpty
  | _ :: rest => part.isPrefixOf text || containsText part rest

/-- This asks for a key of a map, an element of an array, a part of a text or a number of a range. -/
def isWithin (item container : Value) : Except String Value :=
  match container, item with
  | .map entries, .string key => .ok (.boolean (Value.lookup key entries).isSome)
  | .array items, item => .ok (.boolean (items.any fun element => same element item))
  | .string text, .string part => .ok (.boolean (containsText part.toList text.toList))
  | .string text, .character value => .ok (.boolean (text.toList.contains value))
  | .range first last closed, .integer value =>
      .ok (.boolean (first ≤ value && (value < last || closed && value == last)))
  | _, _ => .error "no such operator"

def makeRange (closed : Bool) (left right : Value) : Except String Value :=
  match left, right with
  | .integer first, .integer last => .ok (.range first last closed)
  | _, _ => .error "no such operator"

def Operator.apply (operator : Operator) (left right : Value) : Except String Value :=
  match operator with
  | .equal => .ok (.boolean (same left right))
  | .unequal => .ok (.boolean (!same left right))
  | .less => (ordered operator left right).map .boolean
  | .lessEqual => (ordered operator left right).map .boolean
  | .greater => (ordered operator left right).map .boolean
  | .greaterEqual => (ordered operator left right).map .boolean
  | .within => isWithin left right
  | .upTo => makeRange false left right
  | .through => makeRange true left right
  | _ => arithmetic operator left right

/-- An assignment that adds to an array appends an array and pushes anything else. -/
def Operator.accumulate (operator : Operator) (left right : Value) : Except String Value :=
  match operator, left, right with
  | .add, .array items, .array more => .ok (.array (items ++ more))
  | .add, .array items, item => .ok (.array (items ++ [item]))
  | _, _, _ => operator.apply left right

def negated : Value → Except String Value
  | .integer value => fit (-value.toInt)
  | .float value => .ok (.float (-value))
  | _ => .error "no such operator"

def affirmed : Value → Except String Value
  | .integer value => .ok (.integer value)
  | .float value => .ok (.float value)
  | _ => .error "no such operator"

def inverted : Value → Except String Value
  | .boolean value => .ok (.boolean (!value))
  | _ => .error "no such operator"

/-- What a loop visits is listed, or counted up from a first integer. -/
inductive Visits where
  | listed (items : List Value)
  | counted (first : Int) (count : Nat)

def visits : Value → Except String Visits
  | .array items => .ok (.listed items)
  | .string text => .ok (.listed (text.toList.map .character))
  | .range first last closed =>
      .ok (.counted first.toInt (last.toInt - first.toInt + (if closed then 1 else 0)).toNat)
  | _ => .error "not iterable"

end ScriptHost.Script
