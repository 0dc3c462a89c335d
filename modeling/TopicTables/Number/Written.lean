import TopicTables.Number.Shortest
import TopicTables.Text.Padding

/-! # The text of a float

A float is written with its shortest digits: in place when the leading digit is neither too high nor
too low, else with an exponent. Reading the text gives the float back.
-/

namespace TopicTables.Number
open Text

/-- The decisions of a written form. -/
structure FloatStyle where
  /-- Leading digits from this power of ten on are written in place. -/
  plainFrom : Int
  /-- Leading digits below this power of ten are written in place. -/
  plainBelow : Int
  /-- The least number of digits of an exponent. -/
  exponentWidth : Nat
  notANumber : String
  infinity : String

def messageStyle : FloatStyle where
  plainFrom := -4
  plainBelow := 16
  exponentWidth := 2
  notANumber := "nan"
  infinity := "inf"

/-- Digits in place, with at least one on either side of the point. -/
def Decimal.plainText (d : Decimal) : List Char :=
  let digits := Nat.toDigits 10 d.digits
  if 0 ≤ d.exponent then digits ++ List.replicate d.exponent.toNat '0' ++ ['.', '0']
  else
    let places := (-d.exponent).toNat
    let padded := padLeft '0' (places + 1) digits
    padded.take (padded.length - places) ++ '.' :: padded.drop (padded.length - places)

/-- One digit before the point and the power of ten after the digits. -/
def Decimal.exponentText (style : FloatStyle) (d : Decimal) : List Char :=
  let digits := Nat.toDigits 10 d.digits
  let power := d.exponent + digits.length - 1
  let lead := digits.take 1 ++ (if digits.length == 1 then [] else '.' :: digits.drop 1)
  lead ++ 'e' :: (if power < 0 then '-' else '+') ::
    padLeft '0' style.exponentWidth (Nat.toDigits 10 power.natAbs)

def Decimal.text (style : FloatStyle) (d : Decimal) : List Char :=
  let power := d.exponent + (Nat.toDigits 10 d.digits).length - 1
  if style.plainFrom ≤ power && power < style.plainBelow then d.plainText
  else d.exponentText style

def Decoded.text (style : FloatStyle) : Decoded → String
  | .notANumber => style.notANumber
  | .infinite negative => (if negative then "-" else "") ++ style.infinity
  | .finite negative magnitude =>
    let d := if magnitude.mantissa == 0 then ⟨0, 0⟩ else magnitude.shortest
    (if negative then "-" else "") ++ String.ofList (d.text style)

/-- The text of a float in messages and answers. -/
def floatText (x : Float) : String :=
  (decode x).text messageStyle

end TopicTables.Number
