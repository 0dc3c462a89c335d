import TopicTables.Json.Basic
import TopicTables.Json.Fault
import TopicTables.Number.Numeral
import TopicTables.Text.LoneHalf

/-! # Reading JSON texts

The reader works on the rest of the text: each step takes characters from its front and hands on
what remains. A step that cannot go on stops with a complaint and the rest at which it arose, from
which the place in the text follows.

How many levels of arrays and objects may stand in one another depends on the room that is left
where a text is read.

Beyond the standard grammar the words for not-a-number and the infinities are read; of members with
equal keys the last value stays, at the first place. A half of a pair without its partner
is kept.
-/

namespace TopicTables.Json
open Number

/-- Why reading stopped. -/
inductive Stop where
  | complaint (what : Complaint) (rest : List Char)
  | tooManyDigits (count : Nat)
  | tooDeep (kind : String)

/-- The room for levels where little else is going on. -/
def usualDepth : Nat := 990

/-- The result of reading a part from the front of a text: the part and what follows. -/
abbrev Taken (α : Type) := Except Stop (α × List Char)

/-- The blanks that may stand between the parts of a value. -/
def isSpacing (c : Char) : Bool :=
  c == ' ' || c == '\t' || c == '\n' || c == '\r'

def skipSpacing (cs : List Char) : List Char :=
  cs.dropWhile isSpacing

/-! ## Strings -/

def hexValue? (c : Char) : Option Nat :=
  if '0' ≤ c ∧ c ≤ '9' then some (c.toNat - '0'.toNat)
  else if 'a' ≤ c ∧ c ≤ 'f' then some (c.toNat - 'a'.toNat + 10)
  else if 'A' ≤ c ∧ c ≤ 'F' then some (c.toNat - 'A'.toNat + 10)
  else none

/-- The number that four hexadecimal digits write. -/
def hexCode? (a b c d : Char) : Option Nat := do
  return (((← hexValue? a) * 16 + (← hexValue? b)) * 16 + (← hexValue? c)) * 16 + (← hexValue? d)

/-- The character that a one-letter escape stands for. -/
def escapeValue? (c : Char) : Option Char :=
  [('"', '"'), ('\\', '\\'), ('/', '/'), ('b', '\x08'), ('f', '\x0c'), ('n', '\n'), ('r', '\r'),
    ('t', '\t')].lookup c

/-- Read a string up to its closing quote, as code units: an escape may write half of a pair.
`opening` is the text from the opening quote on. -/
def takeUnits (opening : List Char) : List Char → Taken (List Nat)
  | [] => .error (.complaint .unterminatedString opening)
  | '"' :: rest => .ok ([], rest)
  | '\\' :: [] => .error (.complaint .unterminatedString opening)
  | '\\' :: 'u' :: rest =>
    match rest with
    | a :: b :: c :: d :: after =>
      match hexCode? a b c d with
      | some code =>
        if after.isEmpty then .error (.complaint .badUnicodeEscape ('u' :: rest))
        else (takeUnits opening after).map fun (units, left) => (code :: units, left)
      | none => .error (.complaint .badUnicodeEscape ('u' :: rest))
    | _ => .error (.complaint .badUnicodeEscape ('u' :: rest))
  | '\\' :: c :: rest =>
    match escapeValue? c with
    | some value => (takeUnits opening rest).map fun (units, left) => (value.toNat :: units, left)
    | none => .error (.complaint .badEscape ('\\' :: c :: rest))
  | c :: rest =>
    if c.toNat ≤ 0x1f then .error (.complaint .controlCharacter (c :: rest))
    else (takeUnits opening rest).map fun (units, left) => (c.toNat :: units, left)

/-- Read a string whose opening quote has been read. -/
def takeString (rest : List Char) : Taken String :=
  (takeUnits ('"' :: rest) rest).map fun (units, left) =>
    (String.ofList (Text.joinUnits units), left)

/-! ## Numbers and words -/

structure NumeralParts where
  negative : Bool
  whole : List Char
  fraction : List Char
  /-- The digits of the exponent and whether it is negative. -/
  power : Option (Bool × List Char)

def spanDigits (cs : List Char) : List Char × List Char :=
  (cs.takeWhile Char.isDigit, cs.dropWhile Char.isDigit)

/-- Split off a fraction: a point and at least one digit. -/
def takeFraction : List Char → List Char × List Char
  | '.' :: rest =>
    let (digits, after) := spanDigits rest
    if digits.isEmpty then ([], '.' :: rest) else (digits, after)
  | cs => ([], cs)

/-- Split off an exponent: its mark, an optional sign and at least one digit. -/
def takePower (cs : List Char) : Option (Bool × List Char) × List Char :=
  match cs with
  | mark :: rest =>
    let (negative, unsigned) := splitSign rest
    let (digits, after) := spanDigits unsigned
    if (mark == 'e' || mark == 'E') && !digits.isEmpty then (some (negative, digits), after)
    else (none, cs)
  | [] => (none, cs)

/-- The longest numeral in front. A whole part of several digits does not start with zero. -/
def takeNumeral? (cs : List Char) : Option (NumeralParts × List Char) :=
  let negative := cs.head? == some '-'
  let unsigned := if negative then cs.tail else cs
  let (digits, after) := spanDigits unsigned
  let (whole, rest) :=
    if digits.head? == some '0' then (['0'], unsigned.tail) else (digits, after)
  if whole.isEmpty then none
  else
    let (fraction, rest) := takeFraction rest
    let (power, rest) := takePower rest
    some (⟨negative, whole, fraction, power⟩, rest)

/-- The value of a numeral: an integer unless it has a fraction or an exponent. -/
def NumeralParts.value (n : NumeralParts) : Except Stop Json :=
  match n.fraction, n.power with
  | [], none =>
    if n.whole.length ≤ maxDigits then
      .ok (.int (if n.negative then -(ofDigits n.whole : Int) else ofDigits n.whole))
    else .error (.tooManyDigits n.whole.length)
  | fraction, power =>
    let exponent : Int := match power with
      | none => 0
      | some (negative, digits) => if negative then -(ofDigits digits : Int) else ofDigits digits
    let size := scaled (ofDigits (n.whole ++ fraction)) (exponent - fraction.length)
    .ok (.float (if n.negative then -size else size))

def words : List (List Char × Json) :=
  [("null".toList, .null), ("true".toList, .bool true), ("false".toList, .bool false),
    ("NaN".toList, .float (0.0 / 0.0)), ("Infinity".toList, .float (1.0 / 0.0)),
    ("-Infinity".toList, .float (-1.0 / 0.0))]

def takeWord? (cs : List Char) : Option (Json × List Char) :=
  (words.find? fun (word, _) => word.isPrefixOf cs).map fun (word, value) =>
    (value, cs.drop word.length)

/-- Read a value without parts: a word or a number. -/
def takeScalar (cs : List Char) : Taken Json :=
  match takeWord? cs with
  | some taken => .ok taken
  | none =>
    match takeNumeral? cs with
    | some (numeral, rest) => numeral.value.map fun value => (value, rest)
    | none => .error (.complaint .noValue cs)

/-! ## Values -/

mutual

/-- Read a value from the front. Each step down uses one unit of the bound on the work, and each
array or object one level of the depth that is left. -/
def takeValue : Nat → Nat → List Char → Taken Json
  | 0, _, cs => .error (.complaint .noValue cs)
  | bound + 1, depth, cs =>
    match cs with
    | '"' :: rest => (takeString rest).map fun (s, left) => (.str s, left)
    | '\x7b' :: rest =>
      match depth with
      | 0 => .error (.tooDeep "object")
      | depth + 1 =>
        match skipSpacing rest with
        | '\x7d' :: left => .ok (.obj [], left)
        | inner =>
          (takeMembers bound depth [] inner).map fun (members, left) => (.obj members, left)
    | '[' :: rest =>
      match depth with
      | 0 => .error (.tooDeep "array")
      | depth + 1 =>
        match skipSpacing rest with
        | ']' :: left => .ok (.arr [], left)
        | inner => (takeItems bound depth inner).map fun (items, left) => (.arr items, left)
    | _ => takeScalar cs

/-- Read members up to the closing brace and add them to those known. -/
def takeMembers : Nat → Nat → List (String × Json) → List Char →
    Except Stop (List (String × Json) × List Char)
  | 0, _, _, cs => .error (.complaint .noKey cs)
  | bound + 1, depth, known, cs =>
    match cs with
    | '"' :: rest => do
      let (key, afterKey) ← takeString rest
      match skipSpacing afterKey with
      | ':' :: afterColon =>
        let (value, afterValue) ← takeValue bound depth (skipSpacing afterColon)
        let members := setMember key value known
        match skipSpacing afterValue with
        | '\x7d' :: left => .ok (members, left)
        | ',' :: afterComma => takeMembers bound depth members (skipSpacing afterComma)
        | other => .error (.complaint .noComma other)
      | other => .error (.complaint .noColon other)
    | _ => .error (.complaint .noKey cs)

/-- Read items up to the closing bracket. -/
def takeItems : Nat → Nat → List Char → Except Stop (List Json × List Char)
  | 0, _, cs => .error (.complaint .noValue cs)
  | bound + 1, depth, cs => do
    let (item, afterItem) ← takeValue bound depth cs
    match skipSpacing afterItem with
    | ']' :: left => .ok ([item], left)
    | ',' :: afterComma =>
      let (items, left) ← takeItems bound depth (skipSpacing afterComma)
      .ok (item :: items, left)
    | other => .error (.complaint .noComma other)

end

/-- Read a text that is one value between blanks. Of two steps down one takes a character, so the
length of the text bounds the work. -/
def takeText (depth : Nat) (cs : List Char) : Except Stop Json :=
  match cs with
  | '\ufeff' :: _ => .error (.complaint .byteOrderMark cs)
  | _ => do
    let (value, rest) ← takeValue (2 * cs.length + 2) depth (skipSpacing cs)
    match skipSpacing rest with
    | [] => .ok value
    | extra => .error (.complaint .trailingText extra)

def Stop.fault (text : List Char) : Stop → Fault
  | .complaint what rest => .at what text (text.length - rest.length)
  | .tooManyDigits count => .tooManyDigits count
  | .tooDeep kind => .tooDeep kind

/-- Read a JSON text in which arrays and objects stand in one another up to some depth. -/
def read (depth : Nat) (s : String) : Except Fault Json :=
  (takeText depth s.toList).mapError (Stop.fault s.toList)

end TopicTables.Json
