import TopicTables.CommandLine.Program
import TopicTables.Json.Reader
import TopicTables.Snapshot

/-! # The command line

Browses the cluster that a snapshot on standard input describes. Prompts are cancelled.
-/

namespace TopicTables

def Display.plainText : Display → List String
  | .line text => [text]
  | .working text => [text]
  | .workDone => []
  | .table title columns rows => title :: (columns :: rows).map (" | ".intercalate ·)
  | .select message choices => message :: choices
  | .checkbox message choices => message :: choices.map (·.1)

def readEnvironment : IO Environment := do
  return { bootstrapServers := ← IO.getEnv Environment.bootstrapVariable
           registryUrl := ← IO.getEnv Environment.registryVariable
           defaultDatabase := ← IO.getEnv Environment.databaseVariable
           adminTimeout := ← IO.getEnv Environment.timeoutVariable }

/-- All lines of a stream. -/
partial def readAll (stream : IO.FS.Stream) (read : String) : IO String := do
  let line ← stream.getLine
  if line.isEmpty then return read else readAll stream (read ++ line)

/-- Failures of a snapshot are worded by their messages. -/
def snapshotWords : Snapshot.FailureWords where
  kind := "failure"
  text _ message := message

/-- Texts are printed as they are handed over, and words are not completed. -/
def plainHost : CommandLine.Host where
  console := .showingAll
  workerDepth := Json.usualDepth
  complete _ := .unsupported

/-- Browse the cluster that standard input describes and give the exit code. -/
def browse (words : List String) : IO UInt32 := do
  let text ← readAll (← IO.getStdin) ""
  match Json.read Json.usualDepth (if text.isEmpty then "\x7b\x7d" else text) with
  | .error fault =>
    IO.eprintln fault.message
    return 2
  | .ok snapshot =>
    let run :=
      CommandLine.run plainHost words (← readEnvironment)
        (Snapshot.cluster snapshotWords snapshot) []
    for display in run.shown do
      for line in display.plainText do
        IO.println line
    for (level, line) in run.logs run.trace ++ run.logs run.workerTrace do
      IO.eprintln (level.word ++ " " ++ line)
    return UInt32.ofNat run.exitCode

end TopicTables

def main (words : List String) : IO UInt32 :=
  TopicTables.browse words
