import EntityQuery.Declaration.Attribute
import EntityQuery.Declaration.FieldType
import EntityQuery.Field.Name

/-!
From a declaration to a model. An entity is declared as a struct with named fields and no generic
parameters. Its attributes may set its name and table, and those of a field its column and temporal
kind, or that the field is skipped; where a value is given several times, the last one counts.
Every field that is not skipped gets an entry in the model and an accessor.

The declaration is checked from the front: parameters, kind of item, its attributes, then field by
field the attributes and the temporal kind. The first violation is reported.
-/

namespace EntityQuery.Declaration

open EntityQuery.Field

/-- What kind of item is declared. -/
inductive ItemKind where
  /-- A struct with named fields. -/
  | named
  /-- A struct with fields by position. -/
  | tuple
  /-- A struct without fields. -/
  | unit
  | enumeration
  | union
deriving DecidableEq

/-- Who may use a field. -/
inductive Visibility where
  /-- Whoever the rules for fields allow. -/
  | inherited
  | everyone
  /-- The module with the given name: the crate, this module or the one above. -/
  | named (name : String)
  /-- The module with the given path, written behind `in`. -/
  | within (path : String)
deriving DecidableEq

/-- The visibility that some tokens spell. -/
def Visibility.ofTokens : List Token → Visibility
  | [.word "pub", .group '(' (.word "in" :: path)] =>
    .within (((itemPath? path).map (·.1)).getD "")
  | [.word "pub", .group '(' [.word name]] => .named name
  | .word "pub" :: _ => .everyone
  | _ => .inherited

/-- The visibility that a text spells. -/
def Visibility.ofText (s : String) : Visibility := ofTokens ((tokens? s).getD [])

/-- How a visibility is written, without blanks. -/
def Visibility.text : Visibility → String
  | .inherited => ""
  | .everyone => "pub"
  | .named name => s!"pub({name})"
  | .within path => s!"pub(in{path})"

/-- A declared field. -/
structure FieldDeclaration where
  visibility : Visibility
  /-- The identifier, with its `r#` if it has one. -/
  ident : String
  type : FieldType
  attributes : List Attribute

/-- Why a declaration is refused. -/
inductive DeclarationError where
  | generic
  | notNamed
  | unknownEntityItem
  | unknownFieldItem
  | unknownTemporal (label : String)
  /-- An attribute is not written as it has to be. -/
  | malformed
deriving DecidableEq

/-- The wording of an error; a malformed attribute is reported by whoever reads the text. -/
def DeclarationError.message : DeclarationError → String
  | .generic => "Entity cannot be derived for generic structs"
  | .notNamed => "Entity can only be derived for structs with named fields"
  | .unknownEntityItem => "unknown entity attribute; expected `name` or `table`"
  | .unknownFieldItem => "unknown field attribute; expected `column`, `temporal`, or `skip`"
  | .unknownTemporal label =>
    s!"unknown temporal kind '{label}'; expected date, time, or timestamp"
  | .malformed => "malformed attribute"

/-! ### Attributes -/

/-- What the attributes of an item set. -/
structure EntitySettings where
  name : Option String := none
  table : Option String := none
deriving DecidableEq

/-- What the attributes of a field set. -/
structure FieldSettings where
  column : Option String := none
  /-- The label of the temporal kind. -/
  temporal : Option String := none
  skip : Bool := false
deriving DecidableEq

/-- The text that an item has to come with. -/
def ItemValue.text? : ItemValue → Except DeclarationError String
  | .text s => .ok s
  | .absent | .other => .error .malformed

/-- The settings of an item after one more element. -/
def EntitySettings.set (settings : EntitySettings) : Item → Except DeclarationError EntitySettings
  | .malformed => .error .malformed
  | .entry path value =>
    if path = "name" then value.text?.map fun s => { settings with name := some s }
    else if path = "table" then value.text?.map fun s => { settings with table := some s }
    else .error .unknownEntityItem

/-- The settings of a field after one more element. -/
def FieldSettings.set (settings : FieldSettings) : Item → Except DeclarationError FieldSettings
  | .malformed => .error .malformed
  | .entry path value =>
    if path = "column" then value.text?.map fun s => { settings with column := some s }
    else if path = "temporal" then value.text?.map fun s => { settings with temporal := some s }
    else if path = "skip" then
      if value = .absent then .ok { settings with skip := true } else .error .malformed
    else .error .unknownFieldItem

/-- The elements of an attribute, if it concerns entities. -/
def Attribute.items : Attribute → Except DeclarationError (List Item)
  | .entity items => .ok items
  | .bare => .error .malformed
  | .foreign => .ok []

/-- Settings gathered from attributes, element by element. -/
def gather {α : Type} (set : α → Item → Except DeclarationError α) :
    α → List Attribute → Except DeclarationError α
  | settings, [] => .ok settings
  | settings, first :: rest => do
    let items ← first.items
    let settings ← items.foldlM set settings
    gather set settings rest

/-! ### The result -/

/-- An accessor: a method that returns a field. -/
structure AccessorMethod where
  visibility : Visibility
  name : String
  /-- The identifier of the field that is returned. -/
  returns : String
  doc : String
deriving DecidableEq

/-- The model of a declared entity, up to the module it stands in, and its accessors. -/
structure Derived where
  ident : String
  entityName : String
  table : String
  fields : List FieldModel
  accessors : List AccessorMethod
deriving DecidableEq

/-- The model of an entity declared in a module. -/
def Derived.model (d : Derived) (modulePath : String) : EntityModel :=
  { path := modulePath ++ "::" ++ d.ident, entityName := d.entityName, table := d.table,
    fields := d.fields }

/-- An identifier without its `r#`. -/
def plainIdent : List Char → List Char
  | 'r' :: '#' :: rest => plainIdent rest
  | s => s

/-- The temporal kind of a field: the one that is set, or else the one of its type. -/
def FieldSettings.kind (settings : FieldSettings) (type : FieldType) :
    Except DeclarationError (Option TemporalKind) :=
  match settings.temporal with
  | none => .ok type.kind?
  | some label =>
    match TemporalKind.ofLabel? label with
    | some kind => .ok (some kind)
    | none => .error (.unknownTemporal label)

/-- The entry and the accessor of a field, unless it is skipped. -/
def FieldDeclaration.derive (f : FieldDeclaration) :
    Except DeclarationError (Option (FieldModel × AccessorMethod)) := do
  let settings ← gather FieldSettings.set {} f.attributes
  if settings.skip then
    return none
  else
    let temporal ← settings.kind f.type
    let ident := String.ofList (plainIdent f.ident.toList)
    let name := nameOfIdent ident
    return some (
      { ident, name, column := settings.column.getD name, temporal },
      { visibility := f.visibility, name := f.ident, returns := f.ident,
        doc := s!"Accessor for `{name}`." })

/-- The entries and accessors of fields, in order. -/
def deriveFields :
    List FieldDeclaration → Except DeclarationError (List (FieldModel × AccessorMethod))
  | [] => .ok []
  | f :: rest => do
    let first ← f.derive
    let others ← deriveFields rest
    return first.toList ++ others

/-- Whether the text after the name of an item has generic parameters; it may also be bounds alone,
or empty brackets. -/
def hasParameters (s : String) : Bool :=
  match tokens? s with
  | some (.mark '<' :: .mark '>' :: _) => false
  | some (.mark '<' :: _) => true
  | _ => false

/-- The identifier that a text spells. -/
def identOfText (s : String) : String :=
  match tokens? s with
  | some [.word w] => w
  | _ => s

end EntityQuery.Declaration

namespace EntityQuery

open EntityQuery.Declaration

/-- A declared item. -/
structure Declaration where
  kind : ItemKind
  /-- The identifier, with its `r#` if it has one. -/
  ident : String
  /-- Whether there are generic parameters. -/
  generic : Bool
  attributes : List Attribute
  fields : List FieldDeclaration

/-- The model and the accessors that a declaration amounts to. -/
def Declaration.derive (d : Declaration) : Except DeclarationError Derived :=
  if d.generic then .error .generic
  else if d.kind ≠ .named then .error .notNamed
  else do
    let settings ← gather EntitySettings.set {} d.attributes
    let fields ← deriveFields d.fields
    let entityName := settings.name.getD d.ident
    return { ident := d.ident, entityName, table := settings.table.getD entityName,
             fields := fields.map (·.1), accessors := fields.map (·.2) }

end EntityQuery
