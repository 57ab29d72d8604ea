/-!
What happens while queries are built and rendered is told twice: as an event for the counters, and
as a line of the log. A journal takes both at once.
-/

namespace EntityQuery.Telemetry

/-- How a resolution ends. -/
inductive Resolution where
  /-- The descriptor was in the store. -/
  | hit
  /-- The descriptor had to be computed. -/
  | miss
  /-- The accessor leads to no field. -/
  | failed
deriving DecidableEq

/-- Something that is counted, with the path of the entity it concerns. -/
inductive Event where
  | resolved (path : String) (how : Resolution)
  | rendered (path : String) (parameters : Nat)
  | renderFailed (path : String)
deriving DecidableEq

/-- The path of the entity that an event concerns. -/
def Event.path : Event → String
  | .resolved path _ => path
  | .rendered path _ => path
  | .renderFailed path => path

/-- How much a log line matters. -/
inductive Level where
  | trace
  | debug
  | warn
deriving DecidableEq

/-- The name of a level. -/
def Level.label : Level → String
  | .trace => "TRACE"
  | .debug => "DEBUG"
  | .warn => "WARN"

/-- A line of the log, with named details. -/
structure LogLine where
  level : Level
  message : String
  details : List (String × String)
deriving DecidableEq

/-- Events and log lines in the order in which they came about. -/
structure Journal where
  events : List Event := []
  lines : List LogLine := []
deriving DecidableEq

/-- One more event, and the line that tells it. -/
def Journal.add (j : Journal) (event : Event) (line : LogLine) : Journal :=
  ⟨j.events ++ [event], j.lines ++ [line]⟩

end EntityQuery.Telemetry
