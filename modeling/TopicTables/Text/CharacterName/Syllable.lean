/-! # Names of Korean syllables

A Korean syllable is named by the sounds it is made of: one in front, which may be silent, a vowel,
and one at the end, which may be missing. Its code is reckoned from their places in the alphabet.
-/

namespace TopicTables.Text.CharacterName

/-- The sounds in front of a syllable. -/
def initials : List String := [
  "G", "GG", "N", "D", "DD", "R", "M", "B", "BB", "S", "SS", "", "J", "JJ", "C", "K", "T", "P", "H"]

def vowels : List String := [
  "A", "AE", "YA", "YAE", "EO", "E", "YEO", "YE", "O", "WA", "WAE", "OE", "YO", "U", "WEO", "WE",
  "WI", "YU", "EU", "YI", "I"]

def finals : List String := [
  "", "G", "GG", "GS", "N", "NJ", "NH", "D", "L", "LG", "LM", "LB", "LS", "LT", "LP", "LH", "M",
  "B", "BS", "S", "SS", "NG", "J", "C", "K", "T", "P", "H"]

/-- The longest sound that a text begins with, and its place among others; of equally long ones the
first. -/
def longestSound? (cs : List Char) : Nat → List String → Option (Nat × String)
  | _, [] => none
  | place, sound :: rest =>
    let later := longestSound? cs (place + 1) rest
    if sound.toList.isPrefixOf cs then
      match later with
      | some (_, other) => if sound.length < other.length then later else some (place, sound)
      | none => some (place, sound)
    else later

/-- The place of the longest sound that a text begins with, and the rest of the text. -/
def takeSound? (sounds : List String) (cs : List Char) : Option (Nat × List Char) :=
  (longestSound? cs 0 sounds).map fun (place, sound) => (place, cs.drop sound.length)

/-- The code of the syllable that is spelled by sounds. -/
def syllable? (cs : List Char) : Option Nat := do
  let (initial, cs) ← takeSound? initials cs
  let (vowel, cs) ← takeSound? vowels cs
  let (final, cs) ← takeSound? finals cs
  if cs.isEmpty then
    some (0xac00 + (initial * vowels.length + vowel) * finals.length + final)
  else none

end TopicTables.Text.CharacterName
