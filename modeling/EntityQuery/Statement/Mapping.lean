import EntityQuery.Field.Descriptor

/-!
Mappings: the names that tables and columns have in a query text. A mapping may have no name for
an entity or a field; rendering then fails rather than guess one.
-/

namespace EntityQuery

open EntityQuery.Field

/-- The names of tables and columns. -/
structure Mapping where
  table? : EntityModel → Option String
  column? : Descriptor → Option String

/-- The mapping that the models give: an entity without a table is unmapped, and so is a field that
the model of its entity does not have. -/
def Mapping.ofModels : Mapping where
  table? m := if m.table.isEmpty then none else some m.table
  column? d := (d.entity.field? d.name).map (·.column)

end EntityQuery
