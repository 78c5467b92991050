import EventRelay.Scenario.Catalog
import EventRelay.Subscriber

/-!
# Scripts

What the listeners of a scenario do is written down as data: a list of instructions
that change the event, fail, panic, or use a bus. Commands to a bus are the steps of a
scenario; a listener's instructions can contain steps in turn.
-/

namespace EventRelay
namespace Scenario

/-- How a single listener is added. -/
inductive Via
  /-- With priority and interest in canceled events, under a name of its own. -/
  | named
  /-- At the normal priority. -/
  | plain
  /-- With a priority only. -/
  | prioritized
  /-- As an anonymous function. -/
  | closure
  /-- As an anonymous function whose result is dropped. -/
  | lenient
  /-- As a function that takes events of any kind. -/
  | untyped
  deriving DecidableEq

/-- How a step names a registration. -/
inductive KeyRef
  /-- The listener added last under a tag. -/
  | listener (tag : String)
  | type (subscriber : String)
  /-- An object of a subscriber type, by its label. -/
  | object (label : String) (subscriber? : Option String)

/-- The event that a step posts. -/
inductive EventRef
  | made (spec : EventSpec)
  /-- An event that the scenario keeps under a name. -/
  | kept (name : String)

/-- Who owns a posted event. -/
inductive Handover
  /-- The poster keeps it. -/
  | lent
  /-- The bus gets it and gives it back when all went well. -/
  | given
  deriving DecidableEq

/-- What several callers do to a bus at the same time. -/
inductive Crowd
  /-- Add listeners that only count their runs. -/
  | add
  /-- Add such a listener and remove it again. -/
  | churn
  /-- Register one object of a subscriber type. -/
  | register (subscriber label : String)
  /-- Ask for the node of the kind. -/
  | nodeFor

mutual

/-- One thing that a listener does. -/
inductive Instruction
  /-- Adds to the value of the event. -/
  | add (amount : Int)
  /-- Sets the value of the event. -/
  | set (value : Int)
  /-- Multiplies the value of the event. -/
  | scale (factor : Int)
  /-- Adds to the value of the event's part of a kind, if there is one. -/
  | addIn (kind : String) (amount : Int)
  /-- Sets the canceled state and fails if that is refused. -/
  | cancel (state : Bool)
  /-- Sets the canceled state and records what came of it. -/
  | tryCancel (state : Bool)
  /-- Goes on only if the value is greater than a bound. -/
  | stopUnlessAbove (bound : Int)
  /-- Fails if the value is below a bound, with a complaint that ends in the value. -/
  | refuseBelow (bound : Int) (complaint : String)
  | fail (thrown : Thrown)
  | panic (payload : Panic)
  /-- Gives a bus a command and records the answer; may hand on an error. -/
  | step (step : Step) (handsOn : Bool)

/-- A command to one of the buses. -/
inductive Step
  | mk (bus : Nat) (command : Command)

/-- What a bus is told to do. -/
inductive Command
  | add (tag kind : String) (priority : Priority) (receivesCanceled : Bool) (via : Via)
      (instructions : List Instruction) (limit? : Option Nat)
  | register (subscriber label : String)
  | registerType (subscriber : String)
  | unregister (key : KeyRef)
  /-- Tell whether something is registered. -/
  | isRegistered (key : KeyRef)
  /-- Keep a new event under a name. -/
  | keep (name : String) (spec : EventSpec)
  /-- Look at a kept event. -/
  | view (name : String)
  | post (event : EventRef) (handover : Handover)
  /-- Post an event to one priority. -/
  | postPhase (phase : Priority) (event : EventRef) (handover : Handover)
  /-- Count the listeners of a kind. -/
  | count (kind : String)
  | start
  /-- Tell whether the bus is shut down. -/
  | isShutdown
  | config
  | text
  | nodes
  /-- Show the listener array of a kind, or its part of one priority. -/
  | flattened (kind : String) (phase? : Option Priority)
  | metrics
  /-- Let several callers do the same thing several times. -/
  | crowd (crowd : Crowd) (kind : String) (callers rounds : Nat)
  /-- Let one caller register an object while another unregisters it. -/
  | race (subscriber label kind : String) (rounds : Nat)
  /-- Let several callers count listeners after each addition. -/
  | countTogether (kind : String) (rounds : Nat)

end

/-- The instructions of a listener and how many of its runs follow them. -/
structure Script where
  instructions : List Instruction
  /-- Number of runs that follow the instructions; later ones do nothing. -/
  limit? : Option Nat

/-- A run with a number, counted from zero, follows the instructions. -/
def Script.appliesTo (script : Script) (run : Nat) : Bool :=
  match script.limit? with
  | some limit => run < limit
  | none => true

end Scenario
end EventRelay
