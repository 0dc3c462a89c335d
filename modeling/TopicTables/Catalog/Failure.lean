import TopicTables.Avro.TableColumns
import TopicTables.Boundary.Basic
import TopicTables.Service.Failure

/-! # Failures of catalog operations

A catalog reports what went wrong as an error of its own, with the failed call or the fault of the
definition as its cause. What it does not report so leaves it as it is.
-/

namespace TopicTables

/-- How a catalog operation fails. -/
inductive Failure where
  | databaseNotFound (catalog database : String)
  | tableNotFound (catalog : String) (path : Path)
  | functionNotFound (catalog : String) (reference : Argument)
  | brokerFailed (servers : String) (cause : ServiceFailure)
  | registryFailed (url : String) (cause : ServiceFailure)
  | brokerNotOpen
  | registryNotOpen
  | subjectsFailed (cause : ServiceFailure)
  | schemaFailed (cause : ServiceFailure)
  | noColumns (error : Avro.ColumnsError)
  | unsupported (operation catalog : String)
  /-- A failed call that no operation reports as its own error. -/
  | service (failure : ServiceFailure)
  /-- A refused look-up is asked for nothing. -/
  | noReference
  /-- Fewer than one table are to be resolved at a time. -/
  | badLimit
deriving DecidableEq

namespace Failure

def message : Failure → String
  | databaseNotFound catalog database =>
    "Database " ++ database ++ " does not exist in Catalog " ++ catalog ++ "."
  | tableNotFound catalog path =>
    "Table (or view) " ++ path.fullName ++ " does not exist in Catalog " ++ catalog ++ "."
  | functionNotFound catalog reference =>
    "Function " ++ reference.text ++ " does not exist in Catalog " ++ catalog ++ "."
  | brokerFailed servers _ => "Failed to create broker admin using: " ++ servers
  | registryFailed url _ => "Failed to create schema registry client using: " ++ url
  | brokerNotOpen => "Broker admin session is not open."
  | registryNotOpen => "Schema registry session is not open."
  | subjectsFailed _ => "Failed to get topics from schema registry client."
  | schemaFailed _ => "Failed to get schema from schema registry client."
  | noColumns error => error.message
  | unsupported operation catalog =>
    operation ++ " is not supported by catalog " ++ catalog ++ "."
  | service failure => failure.message
  | noReference => "The function to look up is not given."
  | badLimit => "max_parallel must be >= 1"

inductive Cause where
  | service (failure : ServiceFailure)
  | invalidity (cause : Avro.Invalidity)
  | duplicate (column : DuplicateColumn)
deriving DecidableEq

def Cause.message : Cause → String
  | service failure => failure.message
  | invalidity cause => cause.message
  | duplicate column => column.message

def cause? : Failure → Option Cause
  | brokerFailed _ cause => some (.service cause)
  | registryFailed _ cause => some (.service cause)
  | subjectsFailed cause => some (.service cause)
  | schemaFailed cause => some (.service cause)
  | noColumns (.invalid cause) => some (.invalidity cause)
  | noColumns (.duplicate column) => some (.duplicate column)
  | _ => none

/-- The catalog reports the failure as an error of its own. -/
def isReported : Failure → Bool
  | noColumns (.broken _) => false
  | unsupported _ _ => false
  | service _ => false
  | noReference => false
  | badLimit => false
  | _ => true

/-- The wording of a failure and, in brackets, of its direct cause. -/
def describe (failure : Failure) : String :=
  match failure.cause? with
  | some cause => failure.message ++ " (" ++ cause.message ++ ")"
  | none => failure.message

end Failure

end TopicTables
