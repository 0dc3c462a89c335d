import TopicTables.Avro.Fault
import TopicTables.Number.Binary

/-! # Decimal annotations

A type annotated as decimal gives a precision and a scale, both of them numbers of digits. A type of
a fixed size holds only so many digits.
-/

namespace TopicTables.Avro
open Number

/-- The integer that a value counts as: a truth value counts as one or zero. -/
def wholeValue? : Json → Option Int
  | .int n => some n
  | .bool b => some (if b then 1 else 0)
  | _ => none

/-- The logarithm of two to the base ten. -/
def log2 : Float := 0.3010299956639812

/-- The float eight times the size less one, where the size is a number. -/
def bitsBelowSign (size : Json) : Except Fault Float :=
  match size, wholeValue? size with
  | _, some n =>
    match ofInt? (8 * n - 1) with
    | some bits => .ok bits
    | none => .error (.broken .tooLarge)
  | .float x, none => .ok (8.0 * x - 1.0)
  | .str s, none => misuse (.notReduced (.str s))
  | .arr items, none => misuse (.notReduced (.arr items))
  | size, none => misuse (.notMultiplied size)

def maxPrecision (size : Json) : Except Fault Int := do
  match decode (log2 * (← bitsBelowSign size)) with
  | .notANumber => .error (.invalid .notANumber)
  | .infinite _ => .error (.broken .infinite)
  | finite => .ok (finite.floor?.getD 0)

/-- A scale, where one is given, is a number that is not negative. -/
def checkScale (scale : Json) : Except Fault Unit :=
  if scale.isTruthy && !(wholeValue? scale).any (0 ≤ ·) then reject (.badScale scale) else .ok ()

/-- A precision, where one is given, is a positive number and fits into a fixed size. -/
def checkPrecision (precision : Json) (isFixed : Bool) (members : List (String × Json)) :
    Except Fault Unit :=
  if !precision.isTruthy then .ok ()
  else
    match wholeValue? precision with
    | none => reject (.badPrecision precision)
    | some digits =>
      if digits ≤ 0 then reject (.badPrecision precision)
      else if !isFixed then .ok ()
      else
        match members.lookup "size" with
        | none => .error (.broken (.missingMember "size"))
        | some size => do
          if (← maxPrecision size) < digits then reject (.precisionTooLarge precision size)

/-- The scale does not exceed the precision, where both are given. -/
def checkScaleFits (scale precision : Json) : Except Fault Unit :=
  match wholeValue? scale, wholeValue? precision with
  | some places, some digits =>
    if scale.isTruthy && precision.isTruthy && digits < places then
      reject (.scaleAbovePrecision precision)
    else .ok ()
  | _, _ => .ok ()

/-- Check the annotation of an object, where it is annotated as decimal. -/
def checkDecimal (type : Json) (members : List (String × Json)) : Except Fault Unit :=
  if members.lookup "logicalType" = some (.str "decimal") then do
    let scale := (members.lookup "scale").getD .null
    let precision := (members.lookup "precision").getD .null
    checkScale scale
    checkPrecision precision (decide (type = .str "fixed")) members
    checkScaleFits scale precision
  else .ok ()

end TopicTables.Avro
