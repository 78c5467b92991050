import EventRelay.Text.Quoted

/-!
# Structured texts

One-line texts that show a value with its parts: records with named fields,
sequences in square brackets and optional values.
-/

namespace EventRelay
namespace Text

/-- A field and its text. -/
def field (name value : String) : String :=
  name ++ ": " ++ value

/-- A record that shows all of its fields. -/
def record (name : String) (fields : List String) : String :=
  name ++ " \x7b " ++ ", ".intercalate fields ++ " \x7d"

/-- A record that has more fields than those shown. -/
def openRecord (name : String) (fields : List String) : String :=
  name ++ " \x7b " ++ ", ".intercalate (fields ++ [".."]) ++ " \x7d"

/-- A name applied to one value. -/
def wrapped (name value : String) : String :=
  name ++ "(" ++ value ++ ")"

/-- A sequence of texts. -/
def sequence (elements : List String) : String :=
  "[" ++ ", ".intercalate elements ++ "]"

/-- A value that may be absent. -/
def optional : Option String → String
  | none => "None"
  | some value => wrapped "Some" value

/-- A truth value. -/
def flag : Bool → String
  | true => "true"
  | false => "false"

end Text
end EventRelay
