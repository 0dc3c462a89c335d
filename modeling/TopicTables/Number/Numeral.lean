import TopicTables.Text.Blank
import TopicTables.Text.Digits

/-! # Reading numerals

A numeral may stand between blanks and carry a sign; its digits may be those of any script, and a
single underscore may separate two digits. Float numerals have a point, an exponent, or are one of
the words for infinity and not-a-number in any case.
-/

namespace TopicTables.Number
open Text

def ofDigits (digits : List Char) : Nat :=
  digits.foldl (fun value c => 10 * value + (digitValue? c).getD 0) 0

/-- The float nearest to `digits * 10 ^ exponent`; beyond the range of floats the answer is infinite
or zero without computing the power. -/
def scaled (digits : Nat) (exponent : Int) : Float :=
  let size := (Nat.toDigits 10 digits).length
  if digits == 0 then 0.0
  else if size + exponent > 400 then 1.0 / 0.0
  else if size + exponent < -400 then 0.0
  else Float.ofScientific digits (exponent < 0) exponent.natAbs

/-- A blank around a numeral: the four information separators are none. -/
def isNumeralBlank (c : Char) : Bool :=
  isBlank c && !(0x1c ≤ c.toNat && c.toNat ≤ 0x1f)

def stripNumeral (cs : List Char) : List Char :=
  dropEnd isNumeralBlank (cs.dropWhile isNumeralBlank)

/-- Delete underscores, each of which has to stand between two digits. -/
def removeSeparators (afterDigit : Bool) : List Char → Option (List Char)
  | [] => some []
  | '_' :: rest =>
    if afterDigit && (rest.head?.map isDigit).getD false then removeSeparators false rest else none
  | c :: rest => (removeSeparators (isDigit c) rest).map (c :: ·)

/-- Split off a sign; the first component is true for a minus. -/
def splitSign : List Char → Bool × List Char
  | '-' :: rest => (true, rest)
  | '+' :: rest => (false, rest)
  | cs => (false, cs)

/-- The words for numbers without digits. -/
def wordValue? (cs : List Char) : Option Float :=
  let word := String.ofList (cs.map Char.toLower)
  if word == "inf" || word == "infinity" then some (1.0 / 0.0)
  else if word == "nan" then some (0.0 / 0.0)
  else none

/-- The power of ten after the digits of a numeral, which it ends. -/
def exponent? : List Char → Option Int
  | [] => some 0
  | mark :: rest =>
    let (negative, digits) := splitSign rest
    if (mark == 'e' || mark == 'E') && !digits.isEmpty && digits.all isDigit then
      some (if negative then -(ofDigits digits : Int) else ofDigits digits)
    else none

/-- The value of digits with a point and an exponent. -/
def decimalValue? (cs : List Char) : Option Float :=
  let whole := cs.takeWhile isDigit
  let afterWhole := cs.dropWhile isDigit
  let hasPoint := afterWhole.head? == some '.'
  let fraction := if hasPoint then afterWhole.tail.takeWhile isDigit else []
  let rest := if hasPoint then afterWhole.tail.dropWhile isDigit else afterWhole
  if whole.isEmpty && fraction.isEmpty then none
  else (exponent? rest).map fun power =>
    scaled (ofDigits (whole ++ fraction)) (power - fraction.length)

def readFloat? (s : String) : Option Float := do
  let cs ← removeSeparators false (stripNumeral s.toList)
  let (negative, body) := splitSign cs
  let size ← wordValue? body <|> decimalValue? body
  return if negative then -size else size

/-- Numerals with more digits are not read. -/
def maxDigits : Nat := 4300

def tooManyDigitsMessage (count : Nat) : String :=
  "Exceeds the limit (" ++ toString maxDigits ++ " digits) for integer string conversion: " ++
    "value has " ++ toString count ++
    " digits; use sys.set_int_max_str_digits() to increase the limit"

def readInt? (s : String) : Option Int := do
  let cs ← removeSeparators false (stripNumeral s.toList)
  let (negative, body) := splitSign cs
  if !body.isEmpty && body.all isDigit && body.length ≤ maxDigits then
    return if negative then -(ofDigits body : Int) else ofDigits body
  else none

end TopicTables.Number
