import EntityQuery.Telemetry.Journal

/-!
Tallies: how often each kind of event came about, in all and by entity. An entity has a row once
an event concerned it. Rows stand in the order of their paths, so the order of the events leaves no
trace. Counts are 64-bit words and start anew after the last of them.

An event raises counters one after the other, each of them in the totals first and then in the row
of the event's entity. A row is raised where it stands if it is there already; only if it is not, it
is entered in its place.

```
rendered app::Order 3     renders +1      row app::Order: renders +1
                          parameters +3   row app::Order: nothing that rows show
```
-/

namespace EntityQuery.Telemetry

/-- The kinds of events that are counted apart. -/
inductive Kind where
  | hit
  | miss
  | failure
  | render
  | renderFailure
deriving DecidableEq

/-- The kind of an event. -/
def Event.kind : Event → Kind
  | .resolved _ .hit => .hit
  | .resolved _ .miss => .miss
  | .resolved _ .failed => .failure
  | .rendered .. => .render
  | .renderFailed _ => .renderFailure

/-- What can be raised. -/
inductive Counter where
  /-- The number of events of a kind. -/
  | events (kind : Kind)
  /-- The number of parameters bound. -/
  | parameters
deriving DecidableEq

/-- The counters that an event raises, in order, and by how much. -/
def Event.raises (e : Event) : List (Counter × UInt64) :=
  match e with
  | .rendered _ n => [(.events e.kind, 1), (.parameters, .ofNat n)]
  | .resolved .. | .renderFailed _ => [(.events e.kind, 1)]

/-- One count for each kind of event. -/
structure Counts where
  hits : UInt64 := 0
  misses : UInt64 := 0
  failures : UInt64 := 0
  renders : UInt64 := 0
  renderFailures : UInt64 := 0
deriving DecidableEq

/-- The counts after a counter was raised. Parameters are not among them. -/
def Counts.raise (c : Counts) (n : UInt64) : Counter → Counts
  | .events .hit => { c with hits := c.hits + n }
  | .events .miss => { c with misses := c.misses + n }
  | .events .failure => { c with failures := c.failures + n }
  | .events .render => { c with renders := c.renders + n }
  | .events .renderFailure => { c with renderFailures := c.renderFailures + n }
  | .parameters => c

/-- Counts under the paths of entities, in the order of the paths. -/
abbrev Rows := List (String × Counts)

/-- The rows after a counter was raised in the row of a path, if that is there. -/
def Rows.raiseFound? (path : String) (counter : Counter) (n : UInt64) : Rows → Option Rows
  | [] => none
  | (found, counts) :: rest =>
    if found = path then some ((found, counts.raise n counter) :: rest)
    else (raiseFound? path counter n rest).map ((found, counts) :: ·)

/-- The rows after a counter was raised in the row of a path, which is entered in its place if it is
not there. -/
def Rows.raiseEntry (path : String) (counter : Counter) (n : UInt64) : Rows → Rows
  | [] => [(path, Counts.raise {} n counter)]
  | (found, counts) :: rest =>
    if path < found then (path, Counts.raise {} n counter) :: (found, counts) :: rest
    else if path = found then (found, counts.raise n counter) :: rest
    else (found, counts) :: raiseEntry path counter n rest

/-- The counts of all events, the number of parameters bound, and the counts by entity. -/
structure Tally where
  totals : Counts := {}
  parameters : UInt64 := 0
  rows : Rows := []
deriving DecidableEq

/-- The tally after a counter was raised, in all and for an entity. -/
def Tally.raise (t : Tally) (path : String) (counter : Counter) (n : UInt64) : Tally where
  totals := t.totals.raise n counter
  parameters :=
    match counter with
    | .parameters => t.parameters + n
    | .events _ => t.parameters
  rows := (Rows.raiseFound? path counter n t.rows).getD (Rows.raiseEntry path counter n t.rows)

/-- The tally after one more event. -/
def Tally.add (t : Tally) (e : Event) : Tally :=
  e.raises.foldl (fun t raised => t.raise e.path raised.1 raised.2) t

/-- The tally of some events. -/
def Tally.ofEvents (events : List Event) : Tally := events.foldl Tally.add {}

end EntityQuery.Telemetry
