/-! # Record texts

A record is shown as its name and, in braces, its fields, each with its name in front.
-/

namespace FileGateway

/-- The text of a record whose fields are texts already. -/
def recordText (name : String) (fields : List (String × String)) : String :=
  let shown := fields.map fun (field, value) => s!"{field}: {value}"
  name ++ " \x7b " ++ ", ".intercalate shown ++ " \x7d"

end FileGateway
