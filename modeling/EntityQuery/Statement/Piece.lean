import EntityQuery.Statement.Conventions
import EntityQuery.Stream.Node

/-!
Pieces: a query text before its conventions are chosen. A piece is a fixed word, a name from the
mapping, an alias, the separator, or the place of a bound value. Parameters are numbered by the
places from left to right, so their order is that of the text.
-/

namespace EntityQuery

/-- A value that a query text leaves a place for. -/
structure Binding where
  value : Value
  /-- The temporal kind of the field that the value is compared with. -/
  temporal : Option TemporalKind
  /-- Whether a text goes between wildcards. -/
  pattern : Bool

/-- An element of a query text. -/
inductive Piece where
  /-- A keyword with its blanks, or punctuation. -/
  | word (s : String)
  /-- A table or column. -/
  | name (s : String)
  /-- An entity instance. -/
  | aliasOf (a : Alias)
  /-- What stands between an alias and a column. -/
  | separator
  /-- The place of a value. -/
  | slot (b : Binding)

/-- A bound value with its name. -/
structure Parameter where
  name : String
  value : Value
  temporal : Option TemporalKind

/-- The part of a result that is asked for. The query text has no such clause; it is carried beside
the text. -/
structure Page where
  limit : Option Nat := none
  offset : Nat := 0
deriving DecidableEq

/-- Whether everything is asked for. -/
def Page.isUnbounded (p : Page) : Bool := p.limit.isNone && p.offset == 0

/-- A query text with the values it binds. -/
structure Rendered where
  text : String
  parameters : List Parameter
  page : Page

/-- The parameter with the given name. -/
def Rendered.parameter? (r : Rendered) (name : String) : Option Parameter :=
  r.parameters.find? (·.name == name)

/-- A value between wildcards, if it is a text. -/
def Value.asPattern (wildcard : String) : Value → Value
  | .text s => .text (wildcard ++ s ++ wildcard)
  | v => v

/-- The value that is bound in the end. -/
def Binding.spell (c : Conventions) (b : Binding) : Value :=
  if b.pattern then b.value.asPattern c.wildcard else b.value

namespace Piece

/-- The value of a place. -/
def binding? : Piece → Option Binding
  | .slot b => some b
  | _ => none

/-- The text of pieces, given the number of the next parameter. -/
def spellFrom (c : Conventions) : Nat → List Piece → String
  | _, [] => ""
  | i, .word s :: rest => s ++ spellFrom c i rest
  | i, .name s :: rest => s ++ spellFrom c i rest
  | i, .aliasOf a :: rest => c.aliasName a ++ spellFrom c i rest
  | i, .separator :: rest => c.separator.toString ++ spellFrom c i rest
  | i, .slot _ :: rest => c.placeholder i ++ spellFrom c (i + 1) rest

/-- The values of pieces, in the order of the text. -/
def bindings (pieces : List Piece) : List Binding := pieces.filterMap binding?

/-- The parameters of bindings, given the number of the first. -/
def parametersFrom (c : Conventions) : Nat → List Binding → List Parameter
  | _, [] => []
  | i, b :: rest => ⟨c.parameterName i, b.spell c, b.temporal⟩ :: parametersFrom c (i + 1) rest

/-- The query text of pieces under conventions. -/
def render (c : Conventions) (page : Page) (pieces : List Piece) : Rendered :=
  ⟨spellFrom c 0 pieces, parametersFrom c 0 (bindings pieces), page⟩

end Piece

end EntityQuery
