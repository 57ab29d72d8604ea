/-!
Entity models: what is known of an entity at run time. A model lists the fields in declaration
order with the name they have in queries, the column they are stored in, and how a date or time in
them is to be bound.
-/

namespace EntityQuery

/-- How a temporal value is bound. -/
inductive TemporalKind where
  | date
  | time
  | timestamp
deriving DecidableEq

namespace TemporalKind

/-- The name of a kind in a declaration and in messages. -/
def label : TemporalKind → String
  | .date => "date"
  | .time => "time"
  | .timestamp => "timestamp"

/-- The name of a kind in serialized form. -/
def tag : TemporalKind → String
  | .date => "Date"
  | .time => "Time"
  | .timestamp => "Timestamp"

/-- The three kinds. -/
def all : List TemporalKind := [.date, .time, .timestamp]

/-- The kind with the given label. -/
def ofLabel? (s : String) : Option TemporalKind := all.find? (·.label == s)

/-- The kind with the given tag. -/
def ofTag? (s : String) : Option TemporalKind := all.find? (·.tag == s)

/-- A label leads back to its kind. -/
theorem ofLabel?_label (k : TemporalKind) : ofLabel? k.label = some k := by
  cases k <;> decide

/-- A tag leads back to its kind. -/
theorem ofTag?_tag (k : TemporalKind) : ofTag? k.tag = some k := by
  cases k <;> decide

end TemporalKind

/-- One field of a model. -/
structure FieldModel where
  /-- The identifier in the declaration. -/
  ident : String
  /-- The name in queries. -/
  name : String
  /-- The column the field is stored in. -/
  column : String
  temporal : Option TemporalKind
deriving DecidableEq

/-- What is known of an entity. -/
structure EntityModel where
  /-- The path that identifies the entity. -/
  path : String
  /-- The name in queries and messages. -/
  entityName : String
  /-- The table the entity is stored in; empty if it has none. -/
  table : String
  fields : List FieldModel
deriving DecidableEq

namespace EntityModel

/-- The first field with the given name. -/
def field? (m : EntityModel) (name : String) : Option FieldModel :=
  m.fields.find? (·.name == name)

/-- The first field with the given identifier. -/
def fieldByIdent? (m : EntityModel) (ident : String) : Option FieldModel :=
  m.fields.find? (·.ident == ident)

/-- Whether two models are of the same entity: the path decides. -/
def same (m n : EntityModel) : Bool := m.path == n.path

end EntityModel

/-- An entity: its model, under the name of its type. No two types should have one name, but nothing
keeps them from it. -/
structure Entity where
  typeName : String
  model : EntityModel
deriving DecidableEq

/-- The path of an entity. -/
def Entity.path (e : Entity) : String := e.model.path

end EntityQuery
