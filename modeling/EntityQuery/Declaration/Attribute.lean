import EntityQuery.Declaration.Token

/-!
Attributes of declarations. Only attributes named `entity` concern an entity; each holds a list of
items, which are a path with a string, or a path alone:

```
#[entity(column = "birth", temporal = "date")]   #[entity(skip)]
```
-/

namespace EntityQuery.Declaration

/-- What follows the path of an item. -/
inductive ItemValue where
  /-- Nothing. -/
  | absent
  /-- An equals sign and a string. -/
  | text (s : String)
  /-- Anything else. -/
  | other
deriving DecidableEq

/-- An element of an attribute's list. -/
inductive Item where
  | entry (path : String) (value : ItemValue)
  /-- It does not begin with a path. -/
  | malformed
deriving DecidableEq

/-- An attribute. -/
inductive Attribute where
  /-- An entity attribute with its list. -/
  | entity (items : List Item)
  /-- An entity attribute without a list. -/
  | bare
  /-- An attribute of another name. -/
  | foreign
deriving DecidableEq

/-! ### Reading an attribute -/

/-- A path without arguments, and what comes after it. -/
def plainPath? : List Token → Option (String × List Token)
  | .word w :: .doubleColon :: rest =>
    (plainPath? rest).map fun (path, rest) => (w ++ "::" ++ path, rest)
  | .word w :: rest => some (w, rest)
  | _ => none

/-- A path without arguments that may begin with `::`, and what comes after it. -/
def itemPath? : List Token → Option (String × List Token)
  | .doubleColon :: rest => (plainPath? rest).map fun (path, rest) => ("::" ++ path, rest)
  | tokens => plainPath? tokens

/-- The item that some tokens spell. -/
def Item.ofTokens (tokens : List Token) : Item :=
  match itemPath? tokens with
  | none => .malformed
  | some (path, []) => .entry path .absent
  | some (path, [.mark '=', .text s]) => .entry path (.text s)
  | some (path, _) => .entry path .other

/-- Tokens cut at commas. -/
def commaPieces : List Token → List (List Token)
  | [] => [[]]
  | .mark ',' :: rest => [] :: commaPieces rest
  | token :: rest =>
    match commaPieces rest with
    | [] => [[token]]
    | piece :: others => (token :: piece) :: others

/-- The items that some tokens spell; a comma may follow the last. -/
def itemsOfTokens (tokens : List Token) : List Item :=
  let pieces := commaPieces tokens
  let pieces := if pieces.getLast?.any (·.isEmpty) then pieces.dropLast else pieces
  pieces.map Item.ofTokens

/-- The attribute that some tokens spell, without `#[` and `]`. -/
def Attribute.ofTokens : List Token → Attribute
  | .word "entity" :: .doubleColon :: _ => .foreign
  | [.word "entity", .group _ tokens] => .entity (itemsOfTokens tokens)
  | .word "entity" :: _ => .bare
  | _ => .foreign

/-- The attribute that a text spells, without `#[` and `]`. -/
def Attribute.ofText (s : String) : Attribute := ((tokens? s).map ofTokens).getD .foreign

end EntityQuery.Declaration
