/-! # Runs of named characters

The names of characters with consecutive codes are kept together. Most of them begin like the name
before, so each says how many words it takes over.
-/

namespace TopicTables.Text.CharacterName

/-- Characters with consecutive codes. Their names stand in lines, divided by semicolons; a digit in
front of a name tells how many words it takes over from the name before, and a code without a
character has no name. -/
structure NameRun where
  first : Nat
  lines : List String

/-- The words of a name as a run holds it, after those of the name before. -/
def nameWords (before : List String) (entry : String) : List String :=
  match entry.toList with
  | [] => []
  | kept :: rest => before.take (kept.toNat - '0'.toNat) ++ (String.ofList rest).splitOn " "

/-- The code of the name with certain words, among entries that begin with a code. -/
def codeAmong? (wanted : List String) : Nat → List String → List String → Option Nat
  | _, _, [] => none
  | code, before, entry :: rest =>
    if entry.isEmpty then codeAmong? wanted (code + 1) before rest
    else
      let words := nameWords before entry
      if words = wanted then some code else codeAmong? wanted (code + 1) words rest

/-- The code of the character in a run whose name has certain words. -/
def NameRun.code? (run : NameRun) (wanted : List String) : Option Nat :=
  codeAmong? wanted run.first [] (run.lines.flatMap (·.splitOn ";"))

end TopicTables.Text.CharacterName
