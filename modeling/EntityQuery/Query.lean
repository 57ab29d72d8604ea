import EntityQuery.Statement.Piece
import EntityQuery.Stream.Basic

/-!
Queries: a stream that is finished. A query remembers what is selected and which part of the result
is asked for; modifiers set these and leave the nodes alone.
-/

namespace EntityQuery

/-- What a query selects. -/
inductive Projection where
  /-- The root entities. -/
  | entity
  /-- How many there are. -/
  | count
deriving DecidableEq

/-- A finished query. -/
structure Query where
  entity : Entity
  root : Alias
  nodes : List Node
  projection : Projection := .entity
  distinct : Bool := false
  page : Page := {}

/-- A change to a finished query. -/
inductive Modifier where
  | distinct
  | count
  | limit (n : Nat)
  | offset (n : Nat)
deriving DecidableEq

/-- The query that a stream amounts to. -/
def Stream.build (s : Stream) : Query := { entity := s.entity, root := s.index, nodes := s.nodes }

namespace Query

/-- The query after one change. -/
def modify (q : Query) : Modifier → Query
  | .distinct => { q with distinct := true }
  | .count => { q with projection := .count }
  | .limit n => { q with page := { q.page with limit := some n } }
  | .offset n => { q with page := { q.page with offset := n } }

/-- The query after several changes, in order. -/
def modifyAll (q : Query) (changes : List Modifier) : Query := changes.foldl modify q

end Query

end EntityQuery
