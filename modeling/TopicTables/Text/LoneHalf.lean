/-! # Halves of pairs

Where characters are written in units of sixteen bits, one beyond the first plane takes a pair of
halves. A half without its partner is no character, but a text may hold one. It is kept as a private
character that stands for it. A console may have no way to write it.
-/

namespace TopicTables.Text

def isHighHalf (unit : Nat) : Bool :=
  0xd800 ≤ unit && unit ≤ 0xdbff

def isLowHalf (unit : Nat) : Bool :=
  0xdc00 ≤ unit && unit ≤ 0xdfff

/-- The code of the character that stands for the first of the halves. -/
def firstStandIn : Nat := 0x10f000

/-- The character of a unit that stands alone; a half has one that stands for it. -/
def loneUnit (unit : Nat) : Char :=
  if isHighHalf unit || isLowHalf unit then Char.ofNat (firstStandIn + (unit - 0xd800))
  else Char.ofNat unit

/-- The code of a character; one that stands for a half has the code of the half. -/
def codeOf (c : Char) : Nat :=
  if firstStandIn ≤ c.toNat && c.toNat < firstStandIn + 0x800 then c.toNat - firstStandIn + 0xd800
  else c.toNat

/-- Join the pairs among units. -/
def joinUnits : List Nat → List Char
  | [] => []
  | high :: low :: rest =>
    if isHighHalf high && isLowHalf low then
      Char.ofNat (0x10000 + (high - 0xd800) * 0x400 + (low - 0xdc00)) :: joinUnits rest
    else loneUnit high :: joinUnits (low :: rest)
  | [unit] => [loneUnit unit]

end TopicTables.Text
