import TopicTables.Text.CharacterName.Alias
import TopicTables.Text.CharacterName.Ancient
import TopicTables.Text.CharacterName.Asian
import TopicTables.Text.CharacterName.EastAsian
import TopicTables.Text.CharacterName.European
import TopicTables.Text.CharacterName.Indic
import TopicTables.Text.CharacterName.Musical
import TopicTables.Text.CharacterName.NearEastern
import TopicTables.Text.CharacterName.Phonetic
import TopicTables.Text.CharacterName.Pictorial
import TopicTables.Text.CharacterName.Playful
import TopicTables.Text.CharacterName.Presentational
import TopicTables.Text.CharacterName.Syllable
import TopicTables.Text.CharacterName.Symbolic
import TopicTables.Text.Padding

/-! # Characters by name

A character is found by its name. Korean syllables and unified ideographs have names that are
reckoned, which are known in capitals only; all other names are known in either case.
-/

namespace TopicTables.Text.CharacterName

def runs : List NameRun :=
  european ++ nearEastern ++ indic ++ asian ++ phonetic ++ symbolic ++ eastAsian ++
    presentational ++ ancient ++ pictorial ++ musical ++ playful

/-- Characters that are named by a stem and a number, from a code to another. -/
structure Numbered where
  stem : String
  first : Nat
  last : Nat
  /-- The number of a code, as it is written. -/
  number : Nat → List Char

/-- The code itself in capital hexadecimal digits, four at least. -/
def hexNumber (code : Nat) : List Char :=
  padLeft '0' 4 ((Nat.toDigits 16 code).map Char.toUpper)

/-- The place in a row, in so many decimal digits at least. -/
def placeNumber (width first : Nat) (code : Nat) : List Char :=
  padLeft '0' width (Nat.toDigits 10 (code + 1 - first))

def numbered : List Numbered := [
  ⟨"CJK COMPATIBILITY IDEOGRAPH-", 0xf900, 0xfa6d, hexNumber⟩,
  ⟨"CJK COMPATIBILITY IDEOGRAPH-", 0xfa70, 0xfad9, hexNumber⟩,
  ⟨"CJK COMPATIBILITY IDEOGRAPH-", 0x2f800, 0x2fa1d, hexNumber⟩,
  ⟨"KHITAN SMALL SCRIPT CHARACTER-", 0x18b00, 0x18cd5, hexNumber⟩,
  ⟨"NUSHU CHARACTER-", 0x1b170, 0x1b2fb, hexNumber⟩,
  ⟨"TANGUT COMPONENT-", 0x18800, 0x18aff, placeNumber 3 0x18800⟩,
  ⟨"VARIATION SELECTOR-", 0xfe00, 0xfe0f, placeNumber 1 0xfe00⟩,
  ⟨"VARIATION SELECTOR-", 0xe0100, 0xe01ef, placeNumber 1 0xe00f0⟩,
  ⟨"VS", 0xfe00, 0xfe0f, placeNumber 1 0xfe00⟩,
  ⟨"VS", 0xe0100, 0xe01ef, placeNumber 1 0xe00f0⟩]

/-- The code of the character that has a name by its number. -/
def Numbered.code? (family : Numbered) (name : List Char) : Option Nat :=
  let stem := family.stem.toList
  if stem.isPrefixOf name then
    let number := name.drop stem.length
    ((List.range (family.last + 1 - family.first)).find? fun place =>
      family.number (family.first + place) == number).map (family.first + ·)
  else none

def unified : List (Nat × Nat) := [
  (0x3400, 0x4dbf), (0x4e00, 0x9fff), (0x20000, 0x2a6df), (0x2a700, 0x2b738), (0x2b740, 0x2b81d),
  (0x2b820, 0x2cea1), (0x2ceb0, 0x2ebe0), (0x30000, 0x3134a)]

def capitalHexValue? (c : Char) : Option Nat :=
  if c.isDigit then some (c.toNat - '0'.toNat)
  else if 'A' ≤ c && c ≤ 'F' then some (c.toNat - 'A'.toNat + 10)
  else none

/-- The code of the unified ideograph that four or five digits write. -/
def ideograph? (digits : List Char) : Option Nat := do
  let values ← digits.mapM capitalHexValue?
  let code := values.foldl (fun code value => 16 * code + value) 0
  if (digits.length = 4 ∨ digits.length = 5) ∧ unified.any (fun range =>
      range.1 ≤ code && code ≤ range.2) then some code
  else none

/-- The stems of the names that are reckoned. -/
def syllableStem : List Char := "HANGUL SYLLABLE ".toList

def ideographStem : List Char := "CJK UNIFIED IDEOGRAPH-".toList

def code? (name : String) : Option Nat :=
  let cs := name.toList
  if syllableStem.isPrefixOf cs then syllable? (cs.drop syllableStem.length)
  else if ideographStem.isPrefixOf cs then ideograph? (cs.drop ideographStem.length)
  else
    let capitals := cs.map Char.toUpper
    let name := String.ofList capitals
    (aliases.lookup name).or
      ((numbered.findSome? (·.code? capitals)).or (runs.findSome? (·.code? (name.splitOn " "))))

end TopicTables.Text.CharacterName
