import EventRelay.Failure
import EventRelay.Json.Value
import EventRelay.Priority

/-!
# Reading priorities

A priority can be given by its name, in any letter case, or as data: its key as a JSON
string, or as the only key of an object whose value is null.
-/

namespace EventRelay
namespace Priority

/-- The priority with a name, or what is wrong with the text. -/
def parse (text : String) : Except BusError Priority :=
  match ofName? text with
  | some priority => .ok priority
  | none => .error (.configuration ("unknown event priority `" ++ text ++ "`"))

/-- The priority that a JSON value stands for. -/
def ofJson? : Json.Value → Option Priority
  | .string pieces => (Json.text? pieces).bind ofKey?
  | .object [(key, .null)] => (Json.text? key).bind ofKey?
  | _ => none

end Priority
end EventRelay
