import EntityQuery.Error
import EntityQuery.Text.Blank
import EntityQuery.Text.Identifier

/-!
Keys: the declaring type and the method that an accessor comes down to. An accessor either carries
the path of its type, which for a method ends in the method's name,

```
app::model::Person::last_name     <app::Person as app::Named>::name     app::Person::pick::<u8>
```

or is declared by its method name. A path is cut at every `::` outside angle brackets; a trailing
segment of type arguments is no part of the key.
-/

namespace EntityQuery.Field

open EntityQuery.Text

/-- A method of a type. -/
structure Key where
  declaring : String
  method : String
deriving DecidableEq

/-- A way to name a field of an entity. -/
inductive Accessor where
  /-- A method or function, by the path of its type. -/
  | path (typePath : String)
  /-- A method of the entity, by its name. -/
  | declared (method : String)
deriving DecidableEq

namespace Key

/-- The path of the method. -/
def display (k : Key) : String := k.declaring ++ "::" ++ k.method

/-- Keys are ordered by declaring type, then by method, code point by code point. -/
def order (k l : Key) : Ordering :=
  (compare k.declaring l.declaring).then (compare k.method l.method)

/-- The key of a method declared by name. -/
def ofDeclared (declaring method : String) : Except ResolutionError Key :=
  if declaring.isEmpty || !isIdentifier method.toList then
    .error (.notReducible (declaring ++ "::" ++ method) .misdeclared)
  else .ok ⟨declaring, method⟩

/-! ### Reading a path -/

/-- A character in front of the first of some segments. -/
def consFirst (c : Char) : List (List Char) → List (List Char)
  | [] => [[c]]
  | segment :: others => (c :: segment) :: others

/-- The segments of a path, given the number of open angle brackets and whether a hyphen stands
just before: the bracket of an arrow closes nothing. -/
def segmentsWithin : Nat → Bool → List Char → List (List Char)
  | _, _, [] => [[]]
  | 0, _, ':' :: ':' :: rest => [] :: segmentsWithin 0 false rest
  | depth, afterHyphen, c :: rest =>
    let depth :=
      if c = '<' then depth + 1 else if c = '>' ∧ afterHyphen = false then depth - 1 else depth
    consFirst c (segmentsWithin depth (c = '-') rest)

/-- The segments of a path: what stands between the `::` outside angle brackets. -/
def segments (path : List Char) : List (List Char) := segmentsWithin 0 false path

/-- Whether a text occurs within another. -/
def occursIn (part : List Char) : List Char → Bool
  | [] => part.isEmpty
  | c :: rest => part.isPrefixOf (c :: rest) || occursIn part rest

/-- The mark that the path of a closure carries. -/
def closureMark : List Char := "\x7b\x7bclosure\x7d\x7d".toList

/-- How the types begin that name no method: pointers, references, tuples, trait objects. -/
def pointerMarks : List (List Char) :=
  ["fn(", "for<", "unsafe ", "extern ", "&", "*", "dyn ", "("].map String.toList

/-- Segments joined into a path. -/
def joinSegments : List (List Char) → List Char
  | [] => []
  | [segment] => segment
  | segment :: others => segment ++ ':' :: ':' :: joinSegments others

/-- Segments, last first, without a last segment of type arguments. -/
def dropArguments : List (List Char) → List (List Char)
  | ('<' :: _) :: method :: declaring => method :: declaring
  | segments => segments

/-- The key that a trimmed path comes down to. -/
def ofTrimmed (path : List Char) : Except Irreducible Key :=
  if occursIn closureMark path then .error .closure
  else if pointerMarks.any (·.isPrefixOf path) then .error .pointer
  else match dropArguments (segments path).reverse with
    | method :: declaring@(_ :: _) =>
      if isIdentifier method then
        .ok ⟨String.ofList (joinSegments declaring.reverse), String.ofList method⟩
      else .error .noMethod
    | _ => .error .noDeclaringType

/-- The key of an accessor with the given type path. -/
def ofPath (path : String) : Except ResolutionError Key :=
  (ofTrimmed (trim path.toList)).mapError (.notReducible path)

end Key

/-- The key of an accessor of the type with the given name. -/
def Accessor.key (a : Accessor) (typeName : String) : Except ResolutionError Key :=
  match a with
  | .path typePath => Key.ofPath typePath
  | .declared method => Key.ofDeclared typeName method

end EntityQuery.Field
