/-! # Blank characters and stripping

A blank is a character that separates words: the separators of the space, line and paragraph kinds
and the controls that move to another place of the page. Stripping deletes blanks from both ends.
-/

namespace TopicTables.Text

def isBlank (c : Char) : Bool :=
  let code := c.toNat
  (0x09 ≤ code && code ≤ 0x0d) || (0x1c ≤ code && code ≤ 0x20) || code == 0x85 || code == 0xa0 ||
    code == 0x1680 || (0x2000 ≤ code && code ≤ 0x200a) || code == 0x2028 || code == 0x2029 ||
    code == 0x202f || code == 0x205f || code == 0x3000

/-- Delete the longest end whose characters all satisfy the test. -/
def dropEnd (test : Char → Bool) (cs : List Char) : List Char :=
  (cs.reverse.dropWhile test).reverse

def stripBlanks (cs : List Char) : List Char :=
  dropEnd isBlank (cs.dropWhile isBlank)

/-- The text without the blanks at its ends. -/
def strip (s : String) : String :=
  String.ofList (stripBlanks s.toList)

end TopicTables.Text
