import TopicTables.Pattern.Escape
import TopicTables.Number.Numeral
import TopicTables.Text.Identifier

/-! # Groups in patterns

Groups are numbered in the order of their opening brackets and may have names. References and
conditions ask for a group by number or by name.
-/

namespace TopicTables.Pattern
open Number

/-- The number from which on groups are too many. -/
def groupLimit : Nat := (Nat.pow 2 31 - 1) / 2

def takeGroupName (terminator : Char) : Read String := do
  let name ← takeName terminator "group name" (← remaining) []
  if Text.isIdentifier name then return name else refuse (.badGroupName name) (name.length + 1)

def openGroup (name : Option String) : Read Nat := do
  let p ← get
  let number := p.groups.length + 1
  match name with
  | none => set { p with groups := p.groups ++ [none] }
  | some name =>
    match p.names.lookup name with
    | some earlier => refuse (.repeatedGroupName name number earlier) (name.length + 1)
    | none =>
      set { p with groups := p.groups ++ [none], names := (name, number) :: p.names }
  return number

def Progress.groupWidth (p : Progress) (number : Nat) : Width :=
  ((p.groups[number - 1]?).join).getD ⟨0, some 0⟩

def closeGroup (number : Nat) (body : Node) : Read Unit :=
  modify fun p => { p with groups := p.groups.set (number - 1) (some (body.width p.groupWidth)) }

/-- Skip a comment up to its closing bracket; `start` is the offset of its opening bracket. -/
def skipComment (start : Nat) : Nat → Read Unit
  | 0 => refuse .unterminatedComment 0
  | bound + 1 => do
    match ← peek? with
    | none => refuse .unterminatedComment ((← offset) - start)
    | some token =>
      let _ ← take?
      if token == [')'] then return () else skipComment start bound

def skipLine : Nat → Read Unit
  | 0 => return ()
  | bound + 1 => do
    match ← take? with
    | none => return ()
    | some token => if token == ['\n'] then return () else skipLine bound

/-- Refer to a group by name; the opening of the reference has been taken. -/
def takeNamedReference (flags : Flags) : Read Node := do
  let name ← takeGroupName ')'
  match (← get).names.lookup name with
  | none => refuse (.unknownGroupName name) (name.length + 1)
  | some number =>
    if (((← get).groups[number - 1]?).join).isNone then refuse .openReference (name.length + 1)
    checkLookBehind number
    return .reference number flags.folding

/-- Read the group that a condition asks for, by name or by number. -/
def takeCondition : Read Nat := do
  let name ← takeName ')' "group name" (← remaining) []
  let back := name.length + 1
  if Text.isIdentifier name then
    match (← get).names.lookup name with
    | none => refuse (.unknownGroupName name) back
    | some number =>
      checkLookBehind number
      return number
  else
    match readInt? name with
    | none => refuse (.badGroupName name) back
    | some number =>
      if number < 0 then refuse (.badGroupName name) back
      else if number == 0 then refuse .badGroupNumber back
      else if groupLimit ≤ number.toNat then refuse (.unknownReference number.toNat) back
      else
        let place := (← offset) - back
        modify fun p =>
          if (p.asked.lookup number.toNat).isSome then p
          else { p with asked := p.asked ++ [(number.toNat, place)] }
        checkLookBehind number.toNat
        return number.toNat

end TopicTables.Pattern
