import EntityQuery.Field.Store
import EntityQuery.Value

/-!
The nodes of a query. A scope owns one sequence of nodes in the order in which they were added;
brackets, joins and subqueries own sequences of their own. Conditions and the connectors between
them make the boolean expression of a scope, joins extend its FROM clause, orderings belong to the
statement as a whole.
-/

namespace EntityQuery

open EntityQuery.Field

/-- The number of an entity instance within one query. -/
abbrev Alias := Nat

/-- A field of a certain entity instance. -/
structure ScopedField where
  reference : Reference
  owner : Alias
deriving DecidableEq

namespace ScopedField

/-- What is known of the field. -/
def descriptor (f : ScopedField) : Descriptor := f.reference.descriptor

/-- The name of the field in queries. -/
def name (f : ScopedField) : String := f.descriptor.name

/-- Whether two fields are the same: the same entry of a store under the same alias. -/
def same (f g : ScopedField) : Bool := f.owner == g.owner && f.reference.same g.reference

end ScopedField

/-- How a condition is tied to the one before it. -/
inductive Connector where
  | and
  | or
deriving DecidableEq

/-- The keyword of a connector. -/
def Connector.keyword : Connector → String
  | .and => "AND"
  | .or => "OR"

/-- A comparison. -/
inductive CompareOp where
  | eq
  | notEq
  | gt
  | lt
  | ge
  | le
  | like
  | notLike
  | isNull
  | notNull
deriving DecidableEq

namespace CompareOp

/-- The ten comparisons. -/
def all : List CompareOp := [.eq, .notEq, .gt, .lt, .ge, .le, .like, .notLike, .isNull, .notNull]

/-- How a comparison is written in a query. -/
def token : CompareOp → String
  | .eq => "="
  | .notEq => "<>"
  | .gt => ">"
  | .lt => "<"
  | .ge => ">="
  | .le => "<="
  | .like => "like"
  | .notLike => "not like"
  | .isNull => "is null"
  | .notNull => "is not null"

/-- Whether a comparison has no right-hand side. -/
def isUnary : CompareOp → Bool
  | .isNull | .notNull => true
  | _ => false

/-- Whether a text on the right-hand side stands between wildcards. -/
def isPattern : CompareOp → Bool
  | .like | .notLike => true
  | _ => false

end CompareOp

/-- The right-hand side of a comparison. -/
inductive Operand where
  | none
  | value (v : Value)
  | field (f : ScopedField)

/-- The direction of an ordering. -/
inductive Direction where
  | asc
  | desc
deriving DecidableEq

/-- The keyword of a direction. -/
def Direction.keyword : Direction → String
  | .asc => "asc"
  | .desc => "desc"

/-- The kind of a join. -/
inductive JoinKind where
  | inner
  | left
  | fetch
  | leftFetch
deriving DecidableEq

/-- The keywords of a join. -/
def JoinKind.keyword : JoinKind → String
  | .inner => "JOIN"
  | .left => "LEFT JOIN"
  | .fetch => "JOIN FETCH"
  | .leftFetch => "LEFT JOIN FETCH"

/-- One element of a scope. -/
inductive Node where
  /-- A comparison of a field. -/
  | predicate (field : ScopedField) (op : CompareOp) (operand : Operand)
  /-- What ties the next condition to the one before it. -/
  | connector (c : Connector)
  /-- A group of conditions. -/
  | bracket (nodes : List Node)
  /-- Membership of a field in a list of values. -/
  | inList (field : ScopedField) (negated : Bool) (values : List Value)
  /-- An ordering, with its place among all orderings of the statement. -/
  | orderBy (field : ScopedField) (direction : Direction) (position : Nat)
  /-- The scope of an associated entity in the FROM clause. -/
  | join (kind : JoinKind) (association : ScopedField) (index : Alias) (nodes : List Node)
  /-- Whether an association leads to any entity under conditions. -/
  | existence (negated : Bool) (association : ScopedField) (index : Alias) (nodes : List Node)
  /-- Membership of a field among the values of a field of another entity. -/
  | inSubquery (field : ScopedField) (negated : Bool) (source : EntityModel) (index : Alias)
      (select : ScopedField) (nodes : List Node)

/-- Whether a node is part of the boolean expression of its scope. -/
def Node.isCondition : Node → Bool
  | .predicate .. | .bracket _ | .inList .. | .existence .. | .inSubquery .. => true
  | .connector _ | .orderBy .. | .join .. => false

/-- Whether a node extends the FROM clause. -/
def Node.isJoin : Node → Bool
  | .join .. => true
  | _ => false

/-- Whether there is a condition among some nodes. -/
def hasCondition (nodes : List Node) : Bool := nodes.any Node.isCondition

/-! ### Equality

Nodes are the same if they are built alike from the same fields and equal values; the source of a
subquery is compared by its path. -/

/-- Whether two right-hand sides are the same. -/
def Operand.same : Operand → Operand → Bool
  | .none, .none => true
  | .value v, .value w => v == w
  | .field f, .field g => f.same g
  | _, _ => false

mutual

/-- Whether two nodes are the same. -/
def Node.same : Node → Node → Bool
  | .predicate f op x, .predicate g op' y => f.same g && op == op' && x.same y
  | .connector c, .connector d => c == d
  | .bracket ns, .bracket ms => sameNodes ns ms
  | .inList f neg vs, .inList g neg' ws => f.same g && neg == neg' && Value.equalAll vs ws
  | .orderBy f dir i, .orderBy g dir' j => f.same g && dir == dir' && i == j
  | .join kind f a ns, .join kind' g b ms =>
    kind == kind' && f.same g && a == b && sameNodes ns ms
  | .existence neg f a ns, .existence neg' g b ms =>
    neg == neg' && f.same g && a == b && sameNodes ns ms
  | .inSubquery f neg m a s ns, .inSubquery g neg' m' b t ms =>
    f.same g && neg == neg' && m.same m' && a == b && s.same t && sameNodes ns ms
  | _, _ => false

/-- Whether two sequences of nodes are the same. -/
def sameNodes : List Node → List Node → Bool
  | [], [] => true
  | n :: ns, m :: ms => n.same m && sameNodes ns ms
  | _, _ => false

end

end EntityQuery
