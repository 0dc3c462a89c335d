import TopicTables.Text.LetterCase

/-! # Flags of patterns

A flag is set by a letter, for the whole pattern or for a group.
-/

namespace TopicTables.Pattern

structure Flags where
  ignoreCase : Bool := false
  multiline : Bool := false
  dotAll : Bool := false
  verbose : Bool := false
  ascii : Bool := false
  unicode : Bool := false
  locale : Bool := false
  template : Bool := false
deriving DecidableEq, Repr

namespace Flags

def ofLetter? : Char → Option Flags
  | 'i' => some { ignoreCase := true }
  | 'L' => some { locale := true }
  | 'm' => some { multiline := true }
  | 's' => some { dotAll := true }
  | 'x' => some { verbose := true }
  | 'a' => some { ascii := true }
  | 't' => some { template := true }
  | 'u' => some { unicode := true }
  | _ => none

def combine (op : Bool → Bool → Bool) (a b : Flags) : Flags where
  ignoreCase := op a.ignoreCase b.ignoreCase
  multiline := op a.multiline b.multiline
  dotAll := op a.dotAll b.dotAll
  verbose := op a.verbose b.verbose
  ascii := op a.ascii b.ascii
  unicode := op a.unicode b.unicode
  locale := op a.locale b.locale
  template := op a.template b.template

def union (a b : Flags) : Flags := combine (· || ·) a b

def inter (a b : Flags) : Flags := combine (· && ·) a b

/-- The flags of the first that the second does not have. -/
def diff (a b : Flags) : Flags := combine (fun x y => x && !y) a b

/-- One of the flags that choose among the kinds of characters. -/
def choosesKind (a : Flags) : Bool := a.ascii || a.unicode || a.locale

/-- Flags within a group that sets some and clears others. A kind of characters that the group
chooses replaces the one around it. -/
def within (around on off : Flags) : Flags :=
  let kept :=
    if on.choosesKind then { around with ascii := false, unicode := false, locale := false }
    else around
  (kept.union on).diff off

/-- How characters are compared. -/
def folding (a : Flags) : Text.Folding :=
  if !a.ignoreCase then .exact else if a.ascii then .ascii else .letters

end Flags

end TopicTables.Pattern
