import EntityQuery.Text.CamelCase

/-!
Field names. The name a field has in queries is the camel case form of an identifier without its
getter mark. An accessor method may be marked in either style:

```
get_last_name   is_active   getLastName   isActive   last_name
```

A declared field is marked in the first style alone, so that `getName` is a name of its own there.
-/

namespace EntityQuery.Field

open EntityQuery.Text

/-- What follows a getter mark written with an underscore, if anything does. -/
def afterSnakeMark? (s : List Char) : Option (List Char) :=
  ["get_", "is_"].findSome? fun mark => (mark.toList.isPrefixOf? s).filter (!·.isEmpty)

/-- What follows a getter mark that an ASCII capital ends. -/
def afterCamelMark? (s : List Char) : Option (List Char) :=
  ["get", "is"].findSome? fun mark =>
    (mark.toList.isPrefixOf? s).filter (·.head?.any Char.isUpper)

/-- The part of an accessor method's name that names the field. -/
def stem (method : List Char) : List Char :=
  (afterSnakeMark? method).getD ((afterCamelMark? method).getD method)

/-- The part of a declared identifier that names the field. -/
def declaredStem (ident : List Char) : List Char := (afterSnakeMark? ident).getD ident

/-- The field that an accessor method leads to. -/
def nameOfMethod (method : String) : String := String.ofList (camelCase (stem method.toList))

/-- The name of a field declared under the given identifier. -/
def nameOfIdent (ident : String) : String := String.ofList (camelCase (declaredStem ident.toList))

end EntityQuery.Field
