/-!
# Notices

What a bus tells about its own work while it runs.
-/

namespace EventRelay

/-- How much a notice matters. -/
inductive Level
  | trace
  | debug
  | error
  deriving DecidableEq

/-- Something worth telling that a bus did. -/
inductive Notice
  /-- A node was made for a kind. -/
  | created (event : String) (node depth : Nat) (cancellable : Bool)
  /-- A subscriber or a single listener was registered. -/
  | registered (subscriber : String) (listeners : Nat)
  | unregistered (listeners : Nat)
  /-- A bus that was shut down began to run. -/
  | started
  /-- The listener array of a kind was built anew. -/
  | rebuilt (event : String) (generation listeners : Nat)
  | failed (event : String) (index : Nat) (report : String)
  deriving DecidableEq

namespace Notice

/-- Rebuilding is of interest only when tracing, a failure always. -/
def level : Notice → Level
  | rebuilt .. => .trace
  | failed .. => .error
  | _ => .debug

/-- The text of a notice. -/
def message : Notice → String
  | created .. => "created listener list"
  | registered .. => "registered subscriber"
  | unregistered .. => "unregistered"
  | started => "event bus started"
  | rebuilt .. => "rebuilt listener list"
  | failed _ _ report => report

end Notice
end EventRelay
