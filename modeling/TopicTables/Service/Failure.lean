import TopicTables.Json.Literal

/-! # Failures of services

What a call to a broker or to a schema registry can fail with.
-/

namespace TopicTables

/-- A failed call to a service. -/
inductive ServiceFailure where
  /-- The registry answered with an error: its text, the status of the answer and its own code. -/
  | registry (text : String) (status code : Int)
  /-- The registry named an encoding that does not exist. -/
  | unknownEncoding (value : Json)
  /-- The registry listed its subjects as something that cannot be gone through. -/
  | notIterable (listing : Json)
  /-- Any other failure, with the word for its kind. -/
  | other (kind text : String)
deriving DecidableEq

namespace ServiceFailure

def message : ServiceFailure → String
  | registry text status code =>
    text ++ " (HTTP status code " ++ toString status ++ ", SR code " ++ toString code ++ ")"
  | unknownEncoding value => value.literal ++ " is not a valid SchemaType"
  | notIterable listing => "'" ++ listing.kindName ++ "' object is not iterable"
  | other _ text => text

/-- The registry knows nothing under the name it was asked for. -/
def isNotFound : ServiceFailure → Bool
  | registry _ status _ => status == 404
  | _ => false

end ServiceFailure

end TopicTables
