import TopicTables.Json.Fault
import TopicTables.Json.Literal

/-! # Faults of schema definitions

A definition can be invalid, which is reported with the cause. A walk over a definition can also
break off because a part is missing or has the wrong shape; that is a defect, and no verdict on the
definition.
-/

namespace TopicTables.Avro

/-- A rule of schemas that a definition breaks. -/
inductive Rejection where
  | unmatchedDefault (value : Json) (typeName : String)
  | unmatchedUnionDefault (value : Json) (branches : List Json)
  | badScale (value : Json)
  | badPrecision (value : Json)
  | precisionTooLarge (precision size : Json)
  | scaleAbovePrecision (precision : Json)
  | missingName (declaration : Json)
  | redefined (name : String)
  | badSymbol
  | repeatedSymbol
  | unlistedDefault
  | fieldNotObject (field : Json)
  | fieldWithoutName (field : Json)
  | fieldWithoutType (name : Json)
  | aliasesNotList (value : Json)
deriving DecidableEq

def Rejection.message : Rejection → String
  | unmatchedDefault value typeName =>
    "Default value <" ++ value.text ++ "> must match schema type: " ++ typeName
  | unmatchedUnionDefault value branches =>
    "Default value <" ++ value.text ++ "> must match a schema in union with type: " ++
      Json.text (.arr branches)
  | badScale value => "decimal scale must be a positive integer, not " ++ value.text
  | badPrecision value => "decimal precision must be a positive integer, not " ++ value.text
  | precisionTooLarge precision size =>
    "decimal precision of " ++ precision.text ++ " doesn't fit into array of length " ++ size.text
  | scaleAbovePrecision precision =>
    "decimal scale must be less than or equal to the precision of " ++ precision.text
  | missingName declaration =>
    "\"name\" is a required field missing from the schema: " ++ declaration.literal
  | redefined name => "redefined named type: " ++ name
  | badSymbol => "Every symbol must match the regular expression [A-Za-z_][A-Za-z0-9_]*"
  | repeatedSymbol => "All symbols in an enum must be unique"
  | unlistedDefault => "Default value for enum must be in symbols list"
  | fieldNotObject field =>
    "Record field must be a dict, not " ++ field.kindName ++ ": " ++ field.text
  | fieldWithoutName field => "Record field is missing 'name': " ++ field.literal
  | fieldWithoutType name => "Record field '" ++ name.text ++ "' is missing 'type'"
  | aliasesNotList value => "aliases must be a list, not " ++ value.text

/-- A value of the wrong kind stands where it cannot be used at all. -/
inductive Misuse where
  | notText (value : Json)
  | noItems (value : Json)
  | noMembership (value : Json)
  | notAKey (value : Json)
  | notJoined (space : Json)
  | notPartOfText (value : Json)
  | notMultiplied (value : Json)
  | notReduced (value : Json)
deriving DecidableEq

def Misuse.message : Misuse → String
  | notText value => "the JSON object must be str, bytes or bytearray, not " ++ value.kindName
  | noItems value => "'" ++ value.kindName ++ "' object is not iterable"
  | noMembership value => "argument of type '" ++ value.kindName ++ "' is not iterable"
  | notAKey value => "unhashable type: '" ++ value.kindName ++ "'"
  | notJoined (.arr _) => "can only concatenate list (not \"str\") to list"
  | notJoined space => "unsupported operand type(s) for +: '" ++ space.kindName ++ "' and 'str'"
  | notPartOfText value =>
    "'in <string>' requires string as left operand, not " ++ value.kindName
  | notMultiplied value => "unsupported operand type(s) for *: 'int' and '" ++ value.kindName ++ "'"
  | notReduced value => "unsupported operand type(s) for -: '" ++ value.kindName ++ "' and 'int'"

/-- Why a definition is invalid. -/
inductive Invalidity where
  /-- The definition is no JSON text. -/
  | malformed (fault : Json.Fault)
  | rejected (rejection : Rejection)
  /-- A type is referred to that nothing declares. -/
  | unknownType (text : String)
  | misused (misuse : Misuse)
  /-- A size is no number. -/
  | notANumber
deriving DecidableEq

def Invalidity.message : Invalidity → String
  | malformed fault => fault.message
  | rejected rejection => rejection.message
  | unknownType text => text
  | misused misuse => misuse.message
  | notANumber => "cannot convert float NaN to integer"

/-- Why a walk over a definition breaks off. -/
inductive Defect where
  | missingMember (key : String)
  /-- A value does not offer what only objects or texts offer. -/
  | notOffered (value : Json) (what : String)
  /-- Items are asked of a value that has none. -/
  | noItems (value : Json)
  /-- A collection stands where a key is looked up. -/
  | notAKey (value : Json)
  /-- A number is beyond every float. -/
  | tooLarge
  /-- A size is infinite. -/
  | infinite
  /-- The text of the definition is nested in too many levels to be read. -/
  | tooDeep (kind : String)
deriving DecidableEq

def Defect.message : Defect → String
  | missingMember key => Text.quoted key
  | notOffered value what => "'" ++ value.kindName ++ "' object has no attribute '" ++ what ++ "'"
  | noItems value => (Misuse.noItems value).message
  | notAKey value => (Misuse.notAKey value).message
  | tooLarge => "int too large to convert to float"
  | infinite => "cannot convert float infinity to integer"
  | tooDeep kind => (Json.Fault.tooDeep kind).message

/-- Why a check does not succeed. -/
inductive Fault where
  | invalid (cause : Invalidity)
  | broken (defect : Defect)
deriving DecidableEq

def reject {α : Type} (rejection : Rejection) : Except Fault α :=
  .error (.invalid (.rejected rejection))

def misuse {α : Type} (misuse : Misuse) : Except Fault α :=
  .error (.invalid (.misused misuse))

end TopicTables.Avro
