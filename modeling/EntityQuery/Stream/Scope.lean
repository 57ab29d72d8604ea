import EntityQuery.Stream.Node

/-!
Scopes. A scope is an entity instance together with the instances around it, nearest first. Every
join and every subquery opens a scope inside the current one; brackets do not.
-/

namespace EntityQuery

/-- An entity instance: the path of the entity, and the instance's number. -/
structure Frame where
  path : String
  index : Alias
deriving DecidableEq

/-- The current instance, and those that enclose it, nearest first. -/
structure Scope where
  current : Frame
  outer : List Frame
deriving DecidableEq

namespace Scope

/-- The scope of a query's root. -/
def root (path : String) (index : Alias) : Scope := ⟨⟨path, index⟩, []⟩

/-- A scope directly inside another one. -/
def child (s : Scope) (path : String) (index : Alias) : Scope :=
  ⟨⟨path, index⟩, s.current :: s.outer⟩

/-- The number of the current instance. -/
def index (s : Scope) : Alias := s.current.index

/-- The nearest enclosing instance of an entity. -/
def findOuter? (s : Scope) (path : String) : Option Alias :=
  (s.outer.find? (·.path == path)).map (·.index)

end Scope

end EntityQuery
