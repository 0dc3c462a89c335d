/-! # Binary floating point values, decoded

A finite float is a natural number times a power of two, with a sign. Exact questions about floats
(is it an integer, does it equal this integer, which decimals read back to it) are asked of that
decoded form and answered in integer arithmetic.
-/

namespace TopicTables.Number

/-- The non-negative value `mantissa * 2 ^ exponent`. -/
structure Magnitude where
  mantissa : Nat
  exponent : Int
deriving DecidableEq, Repr

def Magnitude.floor (m : Magnitude) : Nat :=
  m.mantissa * Nat.pow 2 m.exponent.toNat / Nat.pow 2 (-m.exponent).toNat

def Magnitude.isInteger (m : Magnitude) : Bool :=
  decide (Nat.pow 2 (-m.exponent).toNat ∣ m.mantissa * Nat.pow 2 m.exponent.toNat)

/-- What a float stands for. -/
inductive Decoded where
  | notANumber
  | infinite (negative : Bool)
  | finite (negative : Bool) (magnitude : Magnitude)
deriving DecidableEq, Repr

/-- Split the 64 bits into sign, exponent and fraction. -/
def decode (x : Float) : Decoded :=
  let bits := x.toBits.toNat
  let negative := bits / Nat.pow 2 63 == 1
  let exponent : Nat := bits / Nat.pow 2 52 % Nat.pow 2 11
  let fraction : Nat := bits % Nat.pow 2 52
  if exponent == 2047 then
    if fraction == 0 then .infinite negative else .notANumber
  else if exponent == 0 then .finite negative ⟨fraction, -1074⟩
  else .finite negative ⟨Nat.pow 2 52 + fraction, (exponent : Int) - 1075⟩

/-- The integer that a float equals exactly, if there is one. -/
def Decoded.integer? : Decoded → Option Int
  | .finite negative magnitude =>
    if magnitude.isInteger then
      some (if negative then -(magnitude.floor : Int) else magnitude.floor)
    else none
  | _ => none

/-- The largest integer not above the value, if the value is finite. -/
def Decoded.floor? : Decoded → Option Int
  | .finite false magnitude => some magnitude.floor
  | .finite true magnitude =>
    some (if magnitude.isInteger then -(magnitude.floor : Int) else -(magnitude.floor : Int) - 1)
  | _ => none

/-- Integers from this one on, and their negatives, round to no finite float. -/
def overflowBound : Nat :=
  Nat.pow 2 1024 - Nat.pow 2 970

/-- The float nearest to an integer, unless it is beyond every finite float. -/
def ofInt? (n : Int) : Option Float :=
  if n.natAbs < overflowBound then
    let size := Float.ofScientific n.natAbs false 0
    some (if n < 0 then -size else size)
  else none

end TopicTables.Number
