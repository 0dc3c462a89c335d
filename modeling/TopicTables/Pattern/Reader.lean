import TopicTables.Pattern.Alternative
import TopicTables.Pattern.Character
import TopicTables.Pattern.Extension

/-! # Reading patterns

A pattern is read item by item into alternatives. Flags in front of the pattern hold for all of it,
flags of a group inside the group.
-/

namespace TopicTables.Pattern

/-- The places of the line signs. -/
def lineStart (flags : Flags) : Anchor := if flags.multiline then .lineStart else .textStart

def lineEnd (flags : Flags) : Anchor := if flags.multiline then .lineEnd else .lastLineEnd

def Escaped.item (flags : Flags) : Escaped → Item
  | .char code => .plain (.char code flags.folding)
  | .category kind negated =>
    .plain (.set false [.category kind negated flags.ascii] flags.folding)
  | .anchor place => .place place
  | .reference number => .plain (.reference number flags.folding)

/-- The characters that a verbose pattern may hold for looks. -/
def isPatternBlank (c : Char) : Bool :=
  c == ' ' || c == '\t' || c == '\n' || c == '\r' || c == '\x0b' || c == '\x0c'

/-- Take the closing bracket of a group that was opened at some offset. -/
def takeClosing (start : Nat) : Read Unit := do
  if !(← accept ')') then refuse .unterminatedGroup ((← offset) - start)

/-- The patterns of items, the last of which comes first. -/
def patterns (items : List Item) : List Node :=
  items.reverse.flatMap (·.nodes)

mutual

/-- Read alternatives. At the top, flags for the whole pattern may stand in front. -/
def takeChoice : Nat → Flags → Bool → Read (List Node)
  | 0, _, _ => refuse .patternEnds 0
  | bound + 1, flags, isTop => do
    let items ← takeItems bound flags isTop []
    let p ← get
    let flags := if isTop then flags.union p.flags else flags
    let others ← if ← accept '|' then takeOthers bound flags else pure []
    return alternatives flags.folding (patterns items :: others)

def takeOthers : Nat → Flags → Read (List (List Node))
  | 0, _ => refuse .patternEnds 0
  | bound + 1, flags => do
    let items ← takeItems bound flags false []
    let others ← if ← accept '|' then takeOthers bound flags else pure []
    return patterns items :: others

def takeItems : Nat → Flags → Bool → List Item → Read (List Item)
  | 0, _, _, _ => refuse .patternEnds 0
  | bound + 1, flags, mayFlag, items => do
    match ← peek? with
    | none => return items
    | some ['|'] => return items
    | some [')'] => return items
    | some token =>
      let start ← offset
      let _ ← take?
      let add (item : Item) := takeItems bound flags mayFlag (item :: items)
      match token with
      | ['\\', c] => add ((← takeEscape flags c).item flags)
      | [c] =>
        if flags.verbose && isPatternBlank c then takeItems bound flags mayFlag items
        else if flags.verbose && c == '#' then
          skipLine (← remaining)
          takeItems bound flags mayFlag items
        else if c == '[' then add (.plain (← takeSet flags))
        else if c == '.' then add (.plain (.any flags.dotAll))
        else if c == '^' then add (.place (lineStart flags))
        else if c == '$' then add (.place (lineEnd flags))
        else if c == '(' then
          let opening ← if ← accept '?' then takeExtension flags start else pure (.group none)
          match opening with
          | .done none => takeItems bound flags mayFlag items
          | .flags on =>
            if mayFlag && items.isEmpty then
              modify fun p => { p with flags := p.flags.union on }
              takeItems bound (flags.union on) mayFlag items
            else refuse .flagsNotAtStart ((← offset) - start)
          | opening => add (← takeGroup bound flags start opening)
        else
          match ← quantifier? c with
          | some count => takeItems bound flags mayFlag (← repeatLast (start + 1) count items)
          | none => add (.plain (.char (Text.codeOf c) flags.folding))
      | _ => takeItems bound flags mayFlag items

/-- Read what an opening bracket opened, up to its closing bracket. Alternatives count as a
level of their own. -/
def takeGroup : Nat → Flags → Nat → Opening → Read Item
  | 0, _, _, _ => refuse .patternEnds 0
  | bound + 1, flags, start, opening => do
    match opening with
    | .done node => return .plain (node.getD .empty)
    | .flags _ => return .plain .empty
    | .group name =>
      let number ← openGroup name
      let body := sequence (← deeper 2 (takeChoice bound flags false))
      takeClosing start
      closeGroup number body
      return .plain (.group (some number) body)
    | .plain on off =>
      let nodes ← deeper 2 (takeChoice bound (flags.within on off) false)
      takeClosing start
      if on = {} ∧ off = {} then return .cluster nodes
      else return .plain (.group none (sequence nodes))
    | .atomic =>
      let body := sequence (← deeper 2 (takeChoice bound flags false))
      takeClosing start
      return .plain (.atomic body)
    | .ahead negated =>
      let body := sequence (← deeper 2 (takeChoice bound flags false))
      takeClosing start
      return .plain (.ahead negated body)
    | .behind negated =>
      let outer := (← get).lookBehindFrom
      modify fun p => { p with lookBehindFrom := some (outer.getD (p.groups.length + 1)) }
      let body := sequence (← deeper 2 (takeChoice bound flags false))
      modify fun p => { p with lookBehindFrom := outer }
      takeClosing start
      return .plain (.behind negated (body.width (← get).groupWidth) body)
    | .conditional number =>
      let yes ← deeper 1 (takeItems bound flags false [])
      let hasNo ← accept '|'
      let no ← if hasNo then deeper 1 (takeItems bound flags false []) else pure []
      if hasNo && (← peek?) == some ['|'] then refuse .thirdBranch 0
      takeClosing start
      return .plain (.conditional number (sequence (patterns yes)) (sequence (patterns no)))

end

/-- See that a pattern can be carried out: a template repeats nothing, and every look-behind takes a
fixed number of characters. -/
def Node.check (isTemplate : Bool) : Node → Except Fault Unit
  | .seq a b => do
    a.check isTemplate
    b.check isTemplate
  | .choice a b => do
    a.check isTemplate
    b.check isTemplate
  | .repeated _ _ preference body =>
    if isTemplate then throw (.repeatingTemplate preference) else body.check isTemplate
  | .group _ body => body.check isTemplate
  | .atomic body => body.check isTemplate
  | .ahead _ body => body.check isTemplate
  | .behind _ width body =>
    if tooMany < width.least then throw .farLookBehind
    else if !width.isFixed then throw .variableLookBehind
    else body.check isTemplate
  | .conditional _ yes no => do
    yes.check isTemplate
    no.check isTemplate
  | _ => return ()

/-- See that the flags agree, that the whole text has been read, and that every condition asks for a
group there is. -/
def finish : Read Unit := do
  let p ← get
  if p.flags.ascii && p.flags.unicode then throw .conflictingKinds
  if (← peek?).isSome then refuse .unbalanced 0
  match p.asked.find? fun (number, _) => p.groups.length < number with
  | some (number, place) => throw (.complaint (.unknownReference number) place)
  | none => return ()

/-- Read a whole pattern. Each step down takes a token or stands between two that do. -/
def takePattern : Read Expression := do
  noticeDangling (← get)
  let body := sequence (← takeChoice (4 * (← remaining) + 4) {} true)
  finish
  let p ← get
  body.check p.flags.template
  return .ofNode p.flags.ascii body (body.width p.groupWidth)

def read (s : String) : Except Fault Expression :=
  let cs := s.toList
  (takePattern.run { tokens := tokenize 0 cs, size := cs.length, dangling := isDangling cs }).map
    (·.1)

end TopicTables.Pattern
