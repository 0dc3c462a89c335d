import TopicTables.Text.Blank

/-! # Paths of catalog objects

A path names a database and an object in it. Its full name joins the two with a point; the database
ends at the first point, so the object may hold further points.
-/

namespace TopicTables

/-- The place of an object in a catalog. -/
structure Path where
  database : String
  object : String
deriving DecidableEq, Repr, Inhabited

namespace Path
open Text

def fullName (path : Path) : String :=
  path.database ++ "." ++ path.object

/-- Split a full name at its first point, after stripping blanks. Both parts must be there. -/
def ofFullName? (fullName : String) : Option Path :=
  let cs := stripBlanks fullName.toList
  let database := cs.takeWhile (· != '.')
  match cs.dropWhile (· != '.') with
  | _ :: object =>
    if database.isEmpty || object.isEmpty then none
    else some ⟨String.ofList database, String.ofList object⟩
  | [] => none

def malformedMessage : String :=
  "Object path must be in the form `database.object`."

end Path

end TopicTables
