import EventRelay.Json.Reader
import EventRelay.Text.Record
import EventRelay.Text.Blank
import EventRelay.Failure

/-!
# Bus configuration

Three switches, all off by default. A configuration can be read from JSON: an object
with the names of the switches as keys, or an array of their values in order.
-/

namespace EventRelay

/-- How a bus behaves. -/
structure BusConfig where
  /-- The bus ignores posts until it is started. -/
  startShutdown : Bool := false
  /-- Every post checks that the kind is accepted. -/
  checksTypes : Bool := false
  /-- Single priorities may be posted. -/
  allowsPhasePosts : Bool := false
  deriving DecidableEq

namespace BusConfig

/-- Names of the switches, in order. -/
def switches : List String :=
  ["start_shutdown", "check_types_on_dispatch", "allow_per_phase_post"]

/-- Values of the switches, in order. -/
def values (config : BusConfig) : List Bool :=
  [config.startShutdown, config.checksTypes, config.allowsPhasePosts]

/-- The configuration with the given values; missing ones are off. -/
def ofValues? : List Bool → Option BusConfig
  | [] => some {}
  | [first] => some ⟨first, false, false⟩
  | [first, second] => some ⟨first, second, false⟩
  | [first, second, third] => some ⟨first, second, third⟩
  | _ => none

/-- A truth value in JSON. -/
def bool? : Json.Value → Option Bool
  | .bool value => some value
  | _ => none

/-- The value of a switch among the members of an object: off when it is missing, and
nothing when it is given twice. -/
def switch? (members : List (String × Json.Value)) (name : String) : Option Bool :=
  match members.filter fun member => member.1 = name with
  | [] => some false
  | [member] => bool? member.2
  | _ => none

/-- Members with their keys as texts. -/
def named? (members : List (List Json.Piece × Json.Value)) :
    Option (List (String × Json.Value)) :=
  members.mapM fun member => (Json.text? member.1).map fun key => (key, member.2)

/-- The configuration that a JSON value stands for. -/
def ofJson? : Json.Value → Option BusConfig
  | .object members => do
      let members ← named? members
      ofValues? (← switches.mapM (switch? members))
  | .array elements => do
      ofValues? (← elements.mapM bool?)
  | _ => none

/-- What is wrong with a text that holds no configuration, up to the details. -/
def unusable : BusError := .configuration "invalid bus config: "

/-- Reads a configuration from JSON text. -/
def read (text : String) : Except BusError BusConfig :=
  match (Json.parse? text).bind ofJson? with
  | some config => .ok config
  | none => .error unusable

/-- The configuration as compact JSON text. -/
def json (config : BusConfig) : String :=
  "\x7b" ++ ",".intercalate ((switches.zip config.values).map fun (name, value) =>
    "\"" ++ name ++ "\":" ++ Text.flag value) ++ "\x7d"

/-- The configuration as a structured text. -/
def text (config : BusConfig) : String :=
  Text.record "BusConfig" ((switches.zip config.values).map fun (name, value) =>
    Text.field name (Text.flag value))

/-- A setting of the surroundings switches something on: blanks around it and letter
case do not matter. -/
def isOn (setting : String) : Bool :=
  ["1", "true", "yes", "on"].contains
    (String.ofList ((Text.trimmed setting.toList).map Char.toLower))

end BusConfig
end EventRelay
