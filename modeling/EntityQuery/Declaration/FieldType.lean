import EntityQuery.Declaration.Token
import EntityQuery.Model

/-!
The types of declared fields, as far as they tell how a date or time is to be bound. What counts is
the last segment of a type's path; an `Option` passes the question on to its first argument that is
a type.

```
time::Date   Option<Time>   std::option::Option<'a, PrimitiveDateTime>   Vec<Date>
date         time           timestamp                                    no kind
```
-/

namespace EntityQuery.Declaration

mutual

/-- The type of a field. -/
inductive FieldType where
  /-- A path: the segments before the last, the last one, and its arguments in angle brackets. -/
  | path (qualifier : List String) (name : String) (arguments : List TypeArgument)
  /-- Anything else: references, tuples, pointers, trait objects and so on. -/
  | other

/-- An argument in angle brackets. -/
inductive TypeArgument where
  | lifetime
  | type (t : FieldType)
  /-- A constant, or a binding of an associated type. -/
  | other

end

/-! ### The kind of a type -/

/-- The kind that the last segment of a path stands for. -/
def kindOfName? (name : String) : Option TemporalKind :=
  if name = "Date" then some .date
  else if name = "Time" then some .time
  else if name = "PrimitiveDateTime" ∨ name = "OffsetDateTime" then some .timestamp
  else none

mutual

/-- How a value of a type is to be bound, if the type tells. -/
def FieldType.kind? : FieldType → Option TemporalKind
  | .path _ name arguments => if name = "Option" then firstKind? arguments else kindOfName? name
  | .other => none

/-- The kind of the first argument that is a type. -/
def firstKind? : List TypeArgument → Option TemporalKind
  | [] => none
  | .type t :: _ => t.kind?
  | .lifetime :: rest => firstKind? rest
  | .other :: rest => firstKind? rest

end

/-! ### Reading a type

Outside of groups, the angle brackets of a type come in pairs. What stands in a pair is read as soon
as the pair is closed, so a type is one scan over its tokens. -/

/-- A token of a type, or what was read in angle brackets. -/
inductive TypeToken where
  | token (t : Token)
  | angle (arguments : List TypeArgument)

/-- The words with which a type begins that is no path. -/
def typeKeywords : List String := ["dyn", "impl", "fn", "for", "unsafe", "extern"]

/-- Whether a type goes on after a path, which makes it a sum of bounds. -/
def isSum (tokens : List TypeToken) : Bool :=
  tokens.any fun
    | .token (.mark '+') => true
    | _ => false

/-- The type that a path spells, given the segments read so far: those before the last in reverse,
the last one, and its arguments. A segment may take arguments in parentheses, and then a result,
but a path goes on after a result only if that is in parentheses too. -/
def pathFrom (before : List String) (name : String) (arguments : List TypeArgument) :
    List TypeToken → FieldType
  | [] => .path before.reverse name arguments
  | .token .doubleColon :: .token (.word next) :: rest => pathFrom (name :: before) next [] rest
  | .token .doubleColon :: .angle arguments :: rest => pathFrom before name arguments rest
  | .angle arguments :: rest => pathFrom before name arguments rest
  | .token .doubleColon :: .token (.group '(' _) :: rest => pathFrom before name [] rest
  | .token (.group '(' _) :: rest => pathFrom before name [] rest
  | .token .arrow :: .token (.group '(' _) :: rest => pathFrom before name [] rest
  | .token .arrow :: rest => if isSum rest then .other else .path before.reverse name []
  | _ => .other

/-- The type that some tokens spell. A path may begin with `::` or with a qualified type. -/
def FieldType.ofTokens : List TypeToken → FieldType
  | .token .doubleColon :: .token (.word w) :: rest => pathFrom [] w [] rest
  | .angle _ :: .token .doubleColon :: .token (.word w) :: rest => pathFrom [] w [] rest
  | .token (.word w) :: rest =>
    if typeKeywords.contains w then .other else pathFrom [] w [] rest
  | _ => .other

/-! ### Arguments -/

/-- Whether an argument is a constant. -/
def isConstant : List TypeToken → Bool
  | .token t :: _ =>
    match t with
    | .literal | .text _ | .mark '-' | .group '\x7b' _ => true
    | .word w => w == "true" || w == "false"
    | _ => false
  | _ => false

/-- Whether what follows a name binds it: to a type or constant, or to bounds. -/
def binds : List TypeToken → Bool
  | .token (.mark '=') :: _ | .token (.mark ':') :: _ => true
  | _ => false

/-- Whether an argument binds an associated type, which may have arguments itself. -/
def isBinding : List TypeToken → Bool
  | .token (.word _) :: .token .doubleColon :: .angle _ :: rest => binds rest
  | .token (.word _) :: .angle _ :: rest => binds rest
  | .token (.word _) :: rest => binds rest
  | _ => false

/-- The argument that some tokens spell. -/
def TypeArgument.ofTokens : List TypeToken → TypeArgument
  | [.token .lifetime] => .lifetime
  | tokens =>
    if isConstant tokens || isBinding tokens then .other else .type (.ofTokens tokens)

/-! ### Angle brackets -/

/-- Brackets that are open: the arguments that are complete, and the tokens of the next one, each in
reverse. -/
structure OpenAngle where
  complete : List TypeArgument := []
  next : List TypeToken := []

/-- Brackets with one more token. -/
def OpenAngle.push (b : OpenAngle) (t : TypeToken) : OpenAngle := { b with next := t :: b.next }

/-- Brackets after a comma. -/
def OpenAngle.cut (b : OpenAngle) : OpenAngle := ⟨.ofTokens b.next.reverse :: b.complete, []⟩

/-- The arguments in brackets that are closed; after a last comma there is none. -/
def OpenAngle.arguments (b : OpenAngle) : List TypeArgument :=
  if b.next.isEmpty then b.complete.reverse else b.cut.complete.reverse

/-- Reads angle brackets, given those that are open; the outermost of all stand for the type itself,
whose tokens are given back. -/
def typeTokens? (inner : OpenAngle) (outer : List OpenAngle) :
    List Token → Option (List TypeToken)
  | [] => if outer.isEmpty then some inner.next.reverse else none
  | .mark '<' :: rest => typeTokens? {} (inner :: outer) rest
  | .mark '>' :: rest =>
    match outer with
    | [] => none
    | next :: outer => typeTokens? (next.push (.angle inner.arguments)) outer rest
  | .mark ',' :: rest => typeTokens? inner.cut outer rest
  | t :: rest => typeTokens? (inner.push (.token t)) outer rest

/-- The type that a text spells. -/
def FieldType.ofText (s : String) : FieldType :=
  match (tokens? s).bind (typeTokens? {} []) with
  | some tokens => .ofTokens tokens
  | none => .other

end EntityQuery.Declaration
