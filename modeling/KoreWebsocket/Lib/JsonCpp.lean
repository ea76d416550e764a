import Mathlib

/-!
# JSON values as `Json::Value` has them

The library keeps the type a number was read with: an integer is an `intValue`, one too large for a
signed 32-bit integer a `uintValue`, and a number with a fraction or an exponent a `realValue`. The
readers `isUInt` and `isInt` accept all three types as long as the value fits. The keys of an object
are different from each other, so the first member with a key is the only one, and a member that is
not there reads as `null`.
-/

namespace JsonCpp

/-- `Json::Value`. -/
inductive Value
  | null
  | int (n : Int)
  | uint (n : Nat)
  | real (q : ℚ)
  | string (s : String)
  | bool (b : Bool)
  | array (elements : List Value)
  | object (members : List (String × Value))
  deriving Repr

namespace Value

/-- The object without members. -/
def empty : Value := .object []

/-- `operator[]`: the member with this key. -/
def member : Value → String → Value
  | .object members, key => (members.lookup key).getD .null
  | _, _ => .null

def isObject : Value → Bool
  | .object _ => true
  | _ => false

/-- The members of an object, in order. -/
def members : Value → List (String × Value)
  | .object members => members
  | _ => []

def isArray : Value → Bool
  | .array _ => true
  | _ => false

/-- The elements of an array, in order. -/
def elements : Value → List Value
  | .array elements => elements
  | _ => []

def isString : Value → Bool
  | .string _ => true
  | _ => false

def asString : Value → String
  | .string s => s
  | _ => ""

def isBool : Value → Bool
  | .bool _ => true
  | _ => false

def asBool : Value → Bool
  | .bool b => b
  | _ => false

/-- A number of any of the three types. -/
def isDouble : Value → Bool
  | .int _ | .uint _ | .real _ => true
  | _ => false

def asDouble : Value → ℚ
  | .int n => n
  | .uint n => n
  | .real q => q
  | _ => 0

/-- The integer that a number is, if it is one. -/
def integral? : Value → Option Int
  | .int n => some n
  | .uint n => some n
  | .real q => if q.den = 1 then some q.num else none
  | _ => none

/-- A number that a 32-bit unsigned integer has. -/
def isUInt (v : Value) : Bool := v.integral?.any fun n => 0 ≤ n && n < 2 ^ 32

def asUInt (v : Value) : UInt32 := UInt32.ofNat (v.integral?.getD 0).toNat

/-- A number that a 32-bit signed integer has. -/
def isInt (v : Value) : Bool := v.integral?.any fun n => -2 ^ 31 ≤ n && n < 2 ^ 31

/-- The signed integer. The library throws for one that is out of range. -/
def asInt? (v : Value) : Option Int := v.integral?.filter fun n => -2 ^ 31 ≤ n && n < 2 ^ 31

end Value

end JsonCpp
