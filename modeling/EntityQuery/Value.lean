import EntityQuery.Calendar

/-!
Literal values that a query can bind. Lists only stand for several values at once: a membership
test expands them into its leaves, however they are nested.
-/

namespace EntityQuery

/-- A literal value. -/
inductive Value where
  | null
  | bool (b : Bool)
  | int (n : Int64)
  | uint (n : UInt64)
  | float (x : Float)
  | text (s : String)
  | date (d : Date)
  | time (t : Time)
  | timestamp (t : Timestamp)
  | list (items : List Value)

namespace Value

/-- A 32-bit float as a value: it is widened, which is exact. -/
def ofFloat32 (x : Float32) : Value := .float x.toFloat

/-- A value that may be missing; nothing is null. -/
def ofOption : Option Value → Value
  | none => .null
  | some v => v

/-- Whether a value is null. -/
def isNull : Value → Bool
  | .null => true
  | _ => false

/-- Whether a value is a day, a time or both. -/
def isTemporal : Value → Bool
  | .date _ | .time _ | .timestamp _ => true
  | _ => false

/-- The text of a text value. -/
def asText? : Value → Option String
  | .text s => some s
  | _ => none

/-- The name of a value's kind. -/
def kind : Value → String
  | .null => "null"
  | .bool _ => "bool"
  | .int _ => "int"
  | .uint _ => "uint"
  | .float _ => "float"
  | .text _ => "text"
  | .date _ => "date"
  | .time _ => "time"
  | .timestamp _ => "timestamp"
  | .list _ => "list"

/-! ### Equality

Values are equal if they are built alike. Floats compare as numbers do, so a not-a-number differs
from itself and the two zeros are equal. -/

mutual

/-- Whether two values are equal. -/
def equal : Value → Value → Bool
  | .null, .null => true
  | .bool a, .bool b => a == b
  | .int a, .int b => a == b
  | .uint a, .uint b => a == b
  | .float a, .float b => a == b
  | .text a, .text b => a == b
  | .date a, .date b => a == b
  | .time a, .time b => a == b
  | .timestamp a, .timestamp b => a == b
  | .list as, .list bs => equalAll as bs
  | _, _ => false

/-- Whether two lists of values are equal, place by place. -/
def equalAll : List Value → List Value → Bool
  | [], [] => true
  | a :: as, b :: bs => equal a b && equalAll as bs
  | _, _ => false

end

/-- Values compare by `equal`. -/
instance : BEq Value := ⟨equal⟩

/-! ### Leaves -/

mutual

/-- The values that are not lists, from left to right; a value that is no list is its only leaf. -/
def leaves : Value → List Value
  | .list items => leavesOf items
  | v => [v]

/-- The leaves of several values. -/
def leavesOf : List Value → List Value
  | [] => []
  | v :: vs => leaves v ++ leavesOf vs

end

/-- The leaves of two lists one after the other. -/
theorem leavesOf_append (xs ys : List Value) :
    leavesOf (xs ++ ys) = leavesOf xs ++ leavesOf ys := by
  induction xs with
  | nil => simp [leavesOf]
  | cons x xs ih => simp [leavesOf, ih]

end Value

end EntityQuery
