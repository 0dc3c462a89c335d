/-! # Options and operands

A command line mixes options with operands. A long option takes its value behind an equals sign or
from the next word; short options may be written together, and the last of them may take the rest of
the word or the next word as its value. A double dash ends the options. An option that is given
again replaces the value given before.
-/

namespace TopicTables.CommandLine

/-- An option, by its long name and, where it has one, its short letter. -/
structure OptionSpec where
  long : String
  short : Option Char := none
  takesValue : Bool
deriving DecidableEq, Repr

def helpOption : OptionSpec where
  long := "help"
  takesValue := false

/-- What is wrong with a command line. -/
inductive UsageError where
  | unknownOption (word : String)
  | missingValue (option : String)
  | unexpectedValue (option : String)
  | unknownCommand (word : String)
  | missingCommand
  | missingOperand
  | extraOperand (word : String)
  | notANumber (word : String)
deriving DecidableEq, Repr

structure Given where
  option : String
  value : Option String
deriving DecidableEq, Repr

/-- The options that a word gives, and the one that takes the next word as its value. -/
structure WordOptions where
  given : List Given
  awaiting : Option String
deriving DecidableEq, Repr

/-- The options and the operands of a command line. -/
structure Parsed where
  given : List Given
  operands : List String
deriving DecidableEq, Repr

def shortOptions (specs : List OptionSpec) : List Char → Except UsageError WordOptions
  | [] => .ok ⟨[], none⟩
  | letter :: rest =>
    match specs.find? fun spec => spec.short == some letter with
    | none => .error (.unknownOption (String.ofList ['-', letter]))
    | some spec =>
      if spec.takesValue then
        if rest.isEmpty then .ok ⟨[], some spec.long⟩
        else .ok ⟨[⟨spec.long, some (String.ofList rest)⟩], none⟩
      else
        (shortOptions specs rest).map fun others =>
          { others with given := ⟨spec.long, none⟩ :: others.given }

def wordOptions (specs : List OptionSpec) (word : String) : Except UsageError WordOptions :=
  let cs := word.toList
  let name := cs.takeWhile (· != '=')
  let explicit := (cs.dropWhile (· != '=')).tail?.map String.ofList
  match specs.find? fun spec => '-' :: '-' :: spec.long.toList == name with
  | some spec =>
    match spec.takesValue, explicit with
    | true, some value => .ok ⟨[⟨spec.long, some value⟩], none⟩
    | true, none => .ok ⟨[], some spec.long⟩
    | false, some _ => .error (.unexpectedValue spec.long)
    | false, none => .ok ⟨[⟨spec.long, none⟩], none⟩
  | none =>
    if ['-', '-'].isPrefixOf cs then .error (.unknownOption word) else shortOptions specs cs.tail

def isOption (word : String) : Bool :=
  match word.toList with
  | '-' :: _ :: _ => true
  | _ => false

/-- Put options in front of those of the rest of the line. -/
def Parsed.after (given : List Given) (rest : Except UsageError Parsed) :
    Except UsageError Parsed :=
  rest.map fun parsed => { parsed with given := given ++ parsed.given }

/-- Take a command line apart. Unless operands may stand between options, the first one ends the
options. -/
def parse (specs : List OptionSpec) (interspersed : Bool) : List String → Except UsageError Parsed
  | [] => .ok ⟨[], []⟩
  | word :: rest =>
    if word == "--" then .ok ⟨[], rest⟩
    else if !isOption word then
      if interspersed then
        (parse specs interspersed rest).map fun parsed =>
          { parsed with operands := word :: parsed.operands }
      else .ok ⟨[], word :: rest⟩
    else
      match wordOptions specs word with
      | .error e => .error e
      | .ok ⟨given, none⟩ => Parsed.after given (parse specs interspersed rest)
      | .ok ⟨given, some option⟩ =>
        match rest with
        | [] => .error (.missingValue option)
        | value :: others =>
          Parsed.after (given ++ [⟨option, some value⟩]) (parse specs interspersed others)

def Parsed.has (parsed : Parsed) (option : String) : Bool :=
  parsed.given.any (·.option == option)

/-- The value of an option, the last where it was given again. -/
def Parsed.value? (parsed : Parsed) (option : String) : Option String :=
  (parsed.given.reverse.find? (·.option == option)).bind (·.value)

end TopicTables.CommandLine
