import Mathlib

/-!
# JSON values

The values of a parsed document, as a program reads them. A number is its value: whether it was
written with a fraction or an exponent makes no difference to a reader that asks for an unsigned
integer. The keys of an object are different from each other, so the first member with a key is the
only one. A member that is not there reads as `null`.
-/

namespace Json

/-- A JSON value. -/
inductive Value
  | null
  | bool (b : Bool)
  | number (q : ℚ)
  | string (s : String)
  | array (elements : List Value)
  | object (members : List (String × Value))

namespace Value

/-- The member with this key. -/
def member : Value → String → Value
  | .object members, key => (members.lookup key).getD .null
  | _, _ => .null

def isObject : Value → Bool
  | .object _ => true
  | _ => false

def isString : Value → Bool
  | .string _ => true
  | _ => false

/-- The text of a string. -/
def asString : Value → String
  | .string s => s
  | _ => ""

/-- A number that a 32-bit unsigned integer has. -/
def isUInt : Value → Bool
  | .number q => q.den = 1 && 0 ≤ q.num && q.num < 2 ^ 32
  | _ => false

/-- The unsigned integer. -/
def asUInt : Value → UInt32
  | .number q => UInt32.ofNat q.num.toNat
  | _ => 0

theorem asUInt_number {q : ℚ} (h : (number q).isUInt = true) :
    (((number q).asUInt.toNat : ℕ) : ℚ) = q := by
  simp only [isUInt, Bool.and_eq_true, decide_eq_true_eq] at h
  obtain ⟨⟨hden, hpos⟩, hlt⟩ := h
  have hnat : (number q).asUInt.toNat = q.num.toNat := by
    rw [asUInt, UInt32.toNat_ofNat', Nat.mod_eq_of_lt (by omega)]
  have hint : ((q.num.toNat : ℤ) : ℚ) = q.num := by rw [Int.toNat_of_nonneg hpos]
  calc (((number q).asUInt.toNat : ℕ) : ℚ) = ((q.num.toNat : ℤ) : ℚ) := by rw [hnat]; rfl
    _ = q.num := hint
    _ = q := Rat.coe_int_num_of_den_eq_one hden

end Value

end Json
