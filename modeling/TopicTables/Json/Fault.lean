import TopicTables.Number.Numeral

/-! # Faults of JSON texts

A text that is no JSON value is refused with the first thing that is wrong and its place, counted in
characters from the start and in lines and columns.
-/

namespace TopicTables.Json

inductive Complaint where
  | byteOrderMark
  | noValue
  | noKey
  | noColon
  | noComma
  | unterminatedString
  | controlCharacter
  | badEscape
  | badUnicodeEscape
  | trailingText
deriving DecidableEq, Repr

def Complaint.wording : Complaint → String
  | .byteOrderMark => "Unexpected UTF-8 BOM (decode using utf-8-sig)"
  | .noValue => "Expecting value"
  | .noKey => "Expecting property name enclosed in double quotes"
  | .noColon => "Expecting ':' delimiter"
  | .noComma => "Expecting ',' delimiter"
  | .unterminatedString => "Unterminated string starting at"
  | .controlCharacter => "Invalid control character at"
  | .badEscape => "Invalid \\escape"
  | .badUnicodeEscape => "Invalid \\uXXXX escape"
  | .trailingText => "Extra data"

/-- Why a text could not be read. -/
inductive Fault where
  | complaint (what : Complaint) (line column offset : Nat)
  /-- An integer has more digits than are read. -/
  | tooManyDigits (count : Nat)
  /-- Arrays and objects stand in one another in too many levels; `kind` is what stands innermost.
  -/
  | tooDeep (kind : String)
deriving DecidableEq, Repr

/-- Place a complaint at an offset of a text. -/
def Fault.at (what : Complaint) (text : List Char) (offset : Nat) : Fault :=
  let before := text.take offset
  .complaint what (before.count '\n' + 1) ((before.reverse.takeWhile (· != '\n')).length + 1) offset

def Fault.message : Fault → String
  | .complaint what line column offset =>
    what.wording ++ ": line " ++ toString line ++ " column " ++ toString column ++
      " (char " ++ toString offset ++ ")"
  | .tooManyDigits count => Number.tooManyDigitsMessage count
  | .tooDeep kind => "maximum recursion depth exceeded while decoding a JSON " ++ kind ++
      " from a unicode string"

end TopicTables.Json
