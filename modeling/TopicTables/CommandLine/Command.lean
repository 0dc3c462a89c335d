import TopicTables.CommandLine.Arguments
import TopicTables.Config.Environment
import TopicTables.Number.Numeral

/-! # Commands

The command line names a group of commands and a command in it. The words are taken apart from the
outside in: those of the program, those of the group, and those of the command.
-/

namespace TopicTables.CommandLine

inductive Command where
  | listDatabases
  | listTables (pattern : Option String)
  | describeTable (topic : Option String)
  | describeTables (pattern : Option String) (all : Bool) (parallel : Int)
  | tableExists (topic : String)
deriving DecidableEq, Repr

/-- Why no command is run. -/
inductive Stop where
  | help
  | usage (error : UsageError)
deriving DecidableEq, Repr

/-- Take words apart; help wins over everything but a fault in the options. -/
def parseOrStop (specs : List OptionSpec) (interspersed : Bool) (words : List String) :
    Except Stop Parsed :=
  match parse (helpOption :: specs) interspersed words with
  | .error e => .error (.usage e)
  | .ok parsed => if parsed.has helpOption.long then .error .help else .ok parsed

/-! ## The program -/

def verboseOption : OptionSpec where
  long := "verbose"
  short := some 'v'
  takesValue := false

/-- The ways to have the words of the program completed in a shell. -/
inductive Completion where
  | install
  | print
deriving DecidableEq, Repr

def Completion.option (completion : Completion) : OptionSpec where
  long := match completion with
    | install => "install-completion"
    | print => "show-completion"
  takesValue := false

/-- The first completion that is asked for. -/
def Parsed.completion? (parsed : Parsed) : Option Completion :=
  parsed.given.findSome? fun given =>
    [Completion.install, .print].find? fun completion => completion.option.long == given.option

def groupName : String := "catalog"

/-- What the words of the program ask for: completion, or the words of the group. -/
inductive ProgramWords where
  | completion (completion : Completion)
  | group (verbose : Bool) (words : List String)
deriving DecidableEq, Repr

/-- Read the words of the program. Completion wins over everything but help and a fault in the
options. -/
def readProgram (words : List String) : Except Stop ProgramWords := do
  let parsed ← parseOrStop [verboseOption, Completion.install.option, Completion.print.option] false
    words
  match parsed.completion?, parsed.operands with
  | some completion, _ => return .completion completion
  | none, [] => throw (.usage .missingCommand)
  | none, word :: rest =>
    if word == groupName then return .group (parsed.has verboseOption.long) rest
    else throw (.usage (.unknownCommand word))

/-! ## The group -/

def catalogOption : OptionSpec where
  long := "catalog"
  short := some 'c'
  takesValue := true

def bootstrapOption : OptionSpec where
  long := "bootstrap-servers"
  short := some 'b'
  takesValue := true

def registryOption : OptionSpec where
  long := "registry-url"
  short := some 'r'
  takesValue := true

def databaseOption : OptionSpec where
  long := "database"
  short := some 'd'
  takesValue := true

def defaultCatalogName : String := "topiccat"

inductive CommandName where
  | databasesList
  | tablesList
  | tableDescribe
  | tablesDescribe
  | tableExists
deriving DecidableEq, Repr

def CommandName.ofWord? (word : String) : Option CommandName :=
  [("databases-list", databasesList), ("tables-list", tablesList),
    ("table-describe", tableDescribe), ("tables-describe", tablesDescribe),
    ("table-exists", tableExists)].lookup word

/-- The words of the group: the settings of the catalog, and a command with its words. -/
structure GroupWords where
  catalogName : String
  settings : GivenSettings
  command : Option (CommandName × List String)
deriving DecidableEq, Repr

/-- Read the words of the group. A setting that is not given is left to the environment. -/
def readGroup (words : List String) : Except Stop GroupWords := do
  let parsed ← parseOrStop [catalogOption, bootstrapOption, registryOption, databaseOption] false
    words
  let catalogName := (parsed.value? catalogOption.long).getD defaultCatalogName
  let settings : GivenSettings :=
    { bootstrapServers := (parsed.value? bootstrapOption.long).getD ""
      registryUrl := (parsed.value? registryOption.long).getD ""
      defaultDatabase := (parsed.value? databaseOption.long).getD "" }
  match parsed.operands with
  | [] => return ⟨catalogName, settings, none⟩
  | word :: rest =>
    match CommandName.ofWord? word with
    | some name => return ⟨catalogName, settings, some (name, rest)⟩
    | none => throw (.usage (.unknownCommand word))

/-! ## The command -/

def nameOption : OptionSpec where
  long := "name"
  takesValue := true

def parallelOption : OptionSpec where
  long := "parallel"
  short := some 'n'
  takesValue := true

def allOption : OptionSpec where
  long := "all"
  takesValue := false

def defaultParallel : Int := 5

def noneLeft : List String → Except Stop Unit
  | [] => .ok ()
  | word :: _ => .error (.usage (.extraOperand word))

def readCommand (name : CommandName) (words : List String) : Except Stop Command :=
  match name with
  | .databasesList => do
    noneLeft (← parseOrStop [] true words).operands
    return .listDatabases
  | .tablesList => do
    let parsed ← parseOrStop [nameOption] true words
    noneLeft parsed.operands
    return .listTables (parsed.value? nameOption.long)
  | .tableDescribe => do
    let parsed ← parseOrStop [] true words
    noneLeft (parsed.operands.drop 1)
    return .describeTable parsed.operands.head?
  | .tablesDescribe => do
    let parsed ← parseOrStop [nameOption, parallelOption, allOption] true words
    noneLeft parsed.operands
    let parallel ← match parsed.value? parallelOption.long with
      | none => pure defaultParallel
      | some word =>
        match Number.readInt? word with
        | some parallel => pure parallel
        | none => throw (.usage (.notANumber word))
    return .describeTables (parsed.value? nameOption.long) (parsed.has allOption.long) parallel
  | .tableExists => do
    let parsed ← parseOrStop [] true words
    match parsed.operands with
    | [] => throw (.usage .missingOperand)
    | topic :: rest =>
      noneLeft rest
      return .tableExists topic

end TopicTables.CommandLine
