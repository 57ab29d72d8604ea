import EntityQuery.Proofs.Numbering

/-!
Skeletons: what a query text says, apart from the values it binds. A skeleton is a tree that has no
room for anything else: the first condition of a scope is tied to nothing, every other one to the
condition before it, and a join holds the joins that start from it. Two queries have one skeleton if
they differ in values, in how lists are nested, in whether AND was asked for, in the field of a
membership in an empty list, or in where an ordering was asked for.

```
text:      … FROM t c0 JOIN c0.x c1 ON c1.a = :p0 LEFT JOIN c1.y c2 WHERE c0.b in (:p1,:p2) OR (…)
skeleton:  joins       x [on: a, inner: y []]
           conditions  first b (2 values), next OR group …
```
-/

namespace EntityQuery

/-! ### Trees -/

namespace Skeleton

/-- A column of an instance. -/
structure Column where
  owner : Alias
  name : String
deriving DecidableEq

/-- The right-hand side of a comparison. -/
inductive Right where
  | none
  | value
  | field (column : Column)
deriving DecidableEq

mutual

/-- A condition. -/
inductive Condition where
  | comparison (column : Column) (op : CompareOp) (right : Right)
  /-- Membership in a list of so many values. -/
  | membership (column : Column) (negated : Bool) (count : Nat)
  /-- Membership in an empty list. -/
  | constant (holds : Bool)
  | group (conditions : Conditions)
  | existence (negated : Bool) (source : Column) (index : Alias) (joins : Joins)
      (conditions : Conditions)
  | inSubquery (column : Column) (negated : Bool) (table : String) (index : Alias)
      (select : Column) (joins : Joins) (conditions : Conditions)

/-- The conditions of a scope, if it has any. -/
inductive Conditions where
  | none
  | first (condition : Condition) (more : More)

/-- The conditions after one, each with what ties it to the one before. -/
inductive More where
  | done
  | next (tie : Connector) (condition : Condition) (more : More)

/-- The joins that start from a scope, each with those that start from it. -/
inductive Joins where
  | none
  | join (kind : JoinKind) (association : Column) (index : Alias) (on : Conditions)
      (inner rest : Joins)

end

end Skeleton

/-- What the text of a query says. -/
structure Skeleton where
  projection : Projection
  distinct : Bool
  table : String
  root : Alias
  joins : Skeleton.Joins
  conditions : Skeleton.Conditions
  orders : List (Skeleton.Column × Direction)

/-! ### The skeleton of a query -/

/-- The column that a field is mapped to, without a name if it is not mapped. -/
def ScopedField.column (m : Mapping) (f : ScopedField) : Skeleton.Column :=
  ⟨f.owner, (m.column? f.descriptor).getD ""⟩

/-- The name of an entity's table, empty if it is not mapped. -/
def Mapping.tableName (m : Mapping) (entity : EntityModel) : String := (m.table? entity).getD ""

/-- What a right-hand side says. -/
def Operand.right (m : Mapping) : Operand → Skeleton.Right
  | .none => .none
  | .value _ => .value
  | .field f => .field (f.column m)

namespace Skeleton

/-- What a membership says. -/
def Condition.ofMembership (m : Mapping) (f : ScopedField) (negated : Bool) (values : List Value) :
    Condition :=
  match Value.leavesOf values with
  | [] => .constant negated
  | leaves => .membership (f.column m) negated leaves.length

mutual

/-- The condition that a node is, if it is one. -/
def Condition.ofNode? (m : Mapping) : Node → Option Condition
  | .predicate f op x => some (.comparison (f.column m) op (x.right m))
  | .inList f negated values => some (Condition.ofMembership m f negated values)
  | .bracket nodes => some (.group (Conditions.ofNodes m nodes))
  | .existence negated association index nodes =>
    some (.existence negated (association.column m) index (Joins.ofNodes m nodes)
      (Conditions.ofNodes m nodes))
  | .inSubquery f negated source index select nodes =>
    some (.inSubquery (f.column m) negated (m.tableName source) index (select.column m)
      (Joins.ofNodes m nodes) (Conditions.ofNodes m nodes))
  | .connector _ | .orderBy .. | .join .. => none

/-- The conditions among some nodes. -/
def Conditions.ofNodes (m : Mapping) : List Node → Conditions
  | [] => .none
  | node :: rest =>
    match Condition.ofNode? m node with
    | some condition => .first condition (More.ofNodes m .and rest)
    | none => Conditions.ofNodes m rest

/-- The conditions among nodes after one, given what ties the next. -/
def More.ofNodes (m : Mapping) (tie : Connector) : List Node → More
  | [] => .done
  | .connector c :: rest => More.ofNodes m c rest
  | node :: rest =>
    match Condition.ofNode? m node with
    | some condition => .next tie condition (More.ofNodes m .and rest)
    | none => More.ofNodes m tie rest

/-- The joins among some nodes. -/
def Joins.ofNodes (m : Mapping) : List Node → Joins
  | [] => .none
  | .join kind association index nodes :: rest =>
    .join kind (association.column m) index (Conditions.ofNodes m nodes) (Joins.ofNodes m nodes)
      (Joins.ofNodes m rest)
  | _ :: rest => Joins.ofNodes m rest

end

/-- The orderings among some nodes by position. -/
def ordersOf (m : Mapping) (nodes : List Node) : List (Column × Direction) :=
  ((Clause.orderTerms nodes).mergeSort (·.position ≤ ·.position)).map fun t =>
    (t.field.column m, t.direction)

end Skeleton

/-- What the text of a query says through a mapping. -/
def Query.skeleton (m : Mapping) (q : Query) : Skeleton where
  projection := q.projection
  distinct := q.distinct
  table := m.tableName q.entity.model
  root := q.root
  joins := Skeleton.Joins.ofNodes m q.nodes
  conditions := Skeleton.Conditions.ofNodes m q.nodes
  orders := Skeleton.ordersOf m q.nodes

end EntityQuery
