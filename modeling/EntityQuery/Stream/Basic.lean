import EntityQuery.Stream.Scope

/-!
Streams: a scope under construction. A stream gathers nodes and carries three counters along: the
next free alias and the next ordering position, which it shares with the streams opened inside it,
and the connector asked for since the last condition. A stream opened inside another one takes the
counters over by value; only when it is accepted does the outer stream take them back.
-/

namespace EntityQuery

open EntityQuery.Field

/-- The alias of a query's root. -/
def rootAlias : Alias := 0

/-- A scope under construction. -/
structure Stream where
  entity : Entity
  scope : Scope
  /-- The next free alias. -/
  nextAlias : Alias
  nodes : List Node
  /-- The connector asked for since the last condition. -/
  pending : Option Connector
  /-- Whether the boolean expression was opened. -/
  filtering : Bool
  /-- The position of the next ordering. -/
  orders : Nat

namespace Stream

/-- The stream of a new query over an entity. -/
def start (entity : Entity) : Stream :=
  { entity, scope := .root entity.path rootAlias, nextAlias := rootAlias + 1, nodes := [],
    pending := none, filtering := false, orders := 0 }

/-- The number of the stream's own instance. -/
def index (s : Stream) : Alias := s.scope.index

/-- A reference bound to the stream's own instance. -/
def bind (s : Stream) (reference : Reference) : ScopedField := ⟨reference, s.index⟩

/-! ### Adding nodes -/

/-- One more node at the end. -/
def push (s : Stream) (node : Node) : Stream := { s with nodes := s.nodes ++ [node] }

/-- One more condition. It uses up the pending connector, which is written down if there is a
condition to connect to. -/
def pushCondition (s : Stream) (node : Node) : Stream :=
  let tie := match s.pending with
    | some c => if hasCondition s.nodes then [Node.connector c] else []
    | none => []
  { s with nodes := s.nodes ++ tie ++ [node], pending := none, filtering := true }

/-- One more ordering by a field. -/
def pushOrder (s : Stream) (field : ScopedField) (direction : Direction) : Stream :=
  { s.push (.orderBy field direction s.orders) with orders := s.orders + 1 }

/-! ### Groups

A group is a stream over the same instance. Joins opened in it extend the FROM clause of the scope
and leave the group; if no condition is left, there is nothing to put in brackets. -/

/-- The stream of a group inside this one. -/
def group (s : Stream) : Stream :=
  { s with nodes := [], pending := none, filtering := false }

/-- The stream after a group in it was configured. -/
def acceptGroup (s group : Stream) : Stream :=
  let joins := group.nodes.filter Node.isJoin
  let rest := group.nodes.filter (!·.isJoin)
  let s := { s with
    nodes := s.nodes ++ joins, nextAlias := group.nextAlias, orders := group.orders }
  if hasCondition rest then s.pushCondition (.bracket rest) else { s with nodes := s.nodes ++ rest }

/-! ### Children

A child is a stream over a new instance. The orderings of a join count on in the statement, those
of a subquery start anew. -/

/-- The stream of a child over an entity, whose orderings start at the given position. -/
def child (s : Stream) (entity : Entity) (orders : Nat) : Stream :=
  { entity, scope := s.scope.child entity.path s.nextAlias, nextAlias := s.nextAlias + 1,
    nodes := [], pending := none, filtering := false, orders }

/-- The stream after a join was configured. -/
def acceptJoin (s : Stream) (kind : JoinKind) (association : ScopedField) (child : Stream) :
    Stream :=
  { s.push (.join kind association child.index child.nodes) with
    nextAlias := child.nextAlias, orders := child.orders }

/-- The stream after a subquery was configured, with the condition it is part of. -/
def acceptSubquery (s child : Stream) (condition : Node) : Stream :=
  { s with nextAlias := child.nextAlias }.pushCondition condition

end Stream

end EntityQuery
