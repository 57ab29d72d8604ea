import EntityQuery.Telemetry.Tally

/-!
Recorders: where events go. A sink may be installed for the length of a piece of work; while it is,
it takes every event, and otherwise the global tally does. Installing remembers the sink that was
active before and puts it back at the end, however the work ends.
-/

namespace EntityQuery.Telemetry

/-- The global tally, what the sinks have taken, and which of them is active. -/
structure Recorder where
  tally : Tally := {}
  /-- The events that each sink has taken. -/
  sinks : List (List Event) := []
  /-- The number of the active sink. -/
  active : Option Nat := none
deriving DecidableEq

namespace Recorder

/-- Passes an event to the active sink, or to the tally. -/
def record (r : Recorder) (e : Event) : Recorder :=
  match r.active with
  | some sink => { r with sinks := r.sinks.modify sink (· ++ [e]) }
  | none => { r with tally := r.tally.add e }

/-- Passes on several events, in order. -/
def recordAll (r : Recorder) (events : List Event) : Recorder := events.foldl record r

/-- One more sink, which has taken nothing yet, with its number. -/
def addSink (r : Recorder) : Nat × Recorder :=
  (r.sinks.length, { r with sinks := r.sinks ++ [[]] })

/-- What a sink has taken. -/
def taken (r : Recorder) (sink : Nat) : List Event := r.sinks.getD sink []

/-- The recorder with another active sink. -/
def activate (r : Recorder) (active : Option Nat) : Recorder := { r with active }

/-- Does a piece of work while a sink is active. -/
def withSink {α : Type} (r : Recorder) (sink : Nat) (work : Recorder → α × Recorder) :
    α × Recorder :=
  match work (r.activate (some sink)) with
  | (result, after) => (result, after.activate r.active)

/-- Sets the global tally to nothing. -/
def reset (r : Recorder) : Recorder := { r with tally := {} }

end Recorder

end EntityQuery.Telemetry
