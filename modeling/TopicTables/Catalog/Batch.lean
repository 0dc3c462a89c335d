import TopicTables.Catalog.Basic

/-! # Resolving many tables

Each table of a batch is resolved on its own; a failure is kept in its place and ends nothing else.
Any number of tables may be resolved at a time, which shows neither in the results nor in the calls,
so a batch is worked through in order here.
-/

namespace TopicTables

/-- What became of one table of a batch. -/
structure Resolution where
  name : String
  result : Except String Table

def Resolution.isOk (resolution : Resolution) : Bool :=
  match resolution.result with
  | .ok _ => true
  | .error _ => false

namespace Catalog

variable {Listing : Type}

/-- Resolve one table of the database, keeping the wording of a failure. -/
def resolveOne (config : Config) (services : Services Listing) (name : String) :
    Action Resolution := fun session =>
  let outcome := (getTable config services ⟨config.defaultDatabase, name⟩).run session
  ⟨.ok { name, result := outcome.result.mapError Failure.message }, outcome.session, outcome.trace⟩

/-- Resolve tables of the database, some of them at a time. -/
def resolveAll (config : Config) (services : Services Listing) (names : List String) (limit : Int) :
    Action (List Resolution) :=
  if limit < 1 then Action.fail .badLimit
  else names.mapM (resolveOne config services)

end Catalog

end TopicTables
