import TopicTables.Pattern.Group

/-! # Extensions of brackets

A question mark behind an opening bracket gives the bracket another meaning.
-/

namespace TopicTables.Pattern

/-- The complaint about a token that is no flag: an unknown letter, or something missing. -/
def flagComplaint (token : List Char) (missing : Complaint) : Complaint :=
  match token with
  | [c] => if Text.isLetter c then .unknownFlag else missing
  | _ => missing

/-- Read flags to turn on, of which the first letter has been taken, and the token that ends them.
-/
def takeFlagsOn : Nat → Flags → Flags → Read (Flags × Char)
  | 0, _, _ => refuse .patternEnds 0
  | bound + 1, flag, known => do
    if flag.locale then refuse .localeFlag 0
    let flags := known.union flag
    if flag.choosesKind && (flags.ascii && flags.unicode) then refuse .conflictingFlags 0
    match ← take? with
    | none => refuse .noFlagEnd 0
    | some [c] =>
      if c == ')' || c == '-' || c == ':' then return (flags, c)
      else
        match Flags.ofLetter? c with
        | some next => takeFlagsOn bound next flags
        | none => refuse (flagComplaint [c] .noFlagEnd) 1
    | some token => refuse .noFlagEnd token.length

/-- Read flags to turn off, of which the first letter has been taken, up to the colon. -/
def takeFlagsOff : Nat → Flags → Flags → Read Flags
  | 0, _, _ => refuse .patternEnds 0
  | bound + 1, flag, known => do
    if flag.choosesKind then refuse .fixedFlag 0
    let flags := known.union flag
    match ← take? with
    | none => refuse .noFlagColon 0
    | some [':'] => return flags
    | some [c] =>
      match Flags.ofLetter? c with
      | some next => takeFlagsOff bound next flags
      | none => refuse (flagComplaint [c] .noFlagColon) 1
    | some token => refuse .noFlagColon token.length

def takeFirstOff : Read Flags := do
  match ← take? with
  | none => refuse .noFlag 0
  | some [c] =>
    match Flags.ofLetter? c with
    | some flag => takeFlagsOff (← remaining) flag {}
    | none => refuse (flagComplaint [c] .noFlag) 1
  | some token => refuse .noFlag token.length

/-- Flags for the whole pattern, or those that a group turns on and off. -/
inductive FlagScope where
  | whole (flags : Flags)
  | group (on off : Flags)

/-- Read flags, of which the first character has been taken. -/
def takeFlags (first : Char) : Read FlagScope := do
  let (on, terminator) ←
    match Flags.ofLetter? first with
    | some flag => takeFlagsOn (← remaining) flag {}
    | none => pure ({}, '-')
  if terminator == ')' then return .whole on
  if on.template then refuse .globalFlagOn 1
  if terminator == ':' then return .group on {}
  let off ← takeFirstOff
  if off.template then refuse .globalFlagOff 1
  if on.inter off != {} then refuse .flagOnAndOff 1
  return .group on off

inductive Opening where
  /-- Nothing is left to read of it. -/
  | done (node : Option Node)
  | group (name : Option String)
  | plain (on off : Flags)
  | atomic
  | ahead (negated : Bool)
  | behind (negated : Bool)
  | conditional (number : Nat)
  | flags (flags : Flags)

/-- Read what follows the question mark behind an opening bracket at some offset. -/
def takeExtension (flags : Flags) (start : Nat) : Read Opening := do
  match ← take? with
  | none => refuse .patternEnds 0
  | some ['P'] =>
    if ← accept '<' then return .group (some (← takeGroupName '>'))
    else if ← accept '=' then return .done (some (← takeNamedReference flags))
    else
      match ← take? with
      | none => refuse .patternEnds 0
      | some token =>
        refuse (.unknownExtension (String.ofList ('?' :: 'P' :: token))) (token.length + 2)
  | some [':'] => return .plain {} {}
  | some ['#'] =>
    skipComment start (← remaining)
    return .done none
  | some ['='] => return .ahead false
  | some ['!'] => return .ahead true
  | some ['<'] =>
    match ← take? with
    | none => refuse .patternEnds 0
    | some ['='] => return .behind false
    | some ['!'] => return .behind true
    | some token =>
      refuse (.unknownExtension (String.ofList ('?' :: '<' :: token))) (token.length + 2)
  | some ['('] => return .conditional (← takeCondition)
  | some ['>'] => return .atomic
  | some [c] =>
    if c == '-' || (Flags.ofLetter? c).isSome then
      match ← takeFlags c with
      | .whole on => return .flags on
      | .group on off => return .plain on off
    else refuse (.unknownExtension (String.ofList ['?', c])) 2
  | some token => refuse (.unknownExtension (String.ofList ('?' :: token))) (token.length + 1)

end TopicTables.Pattern
