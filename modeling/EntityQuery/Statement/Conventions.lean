import EntityQuery.Error
import EntityQuery.Text.Blank
import EntityQuery.Text.Identifier

/-!
Text conventions: how aliases, fields, parameters and patterns are spelled. The defaults give

```
SELECT c0 FROM Person c0 WHERE c0.lastName like :p0
```

with `%` around what `p0` stands for.
-/

namespace EntityQuery

/-- How the variable parts of a query text are spelled. -/
structure Conventions where
  /-- What stands in front of a parameter's name in the text. -/
  parameterMark : String := ":"
  /-- What parameter names begin with. -/
  parameterStem : String := "p"
  /-- What aliases begin with. -/
  aliasStem : String := "c"
  /-- What stands between an alias and a column. -/
  separator : Char := '.'
  /-- What stands on both sides of a pattern. -/
  wildcard : String := "%"
deriving DecidableEq

namespace Conventions

open EntityQuery.Text

/-- Different numbers behind one stem are different names. -/
theorem numbered_inj (stem : String) {i j : Nat} (h : stem ++ toString i = stem ++ toString j) :
    i = j := by
  have hlist := congrArg String.toList h
  simp only [String.toList_append, List.append_cancel_left_eq, Nat.toString_eq_repr,
    Nat.toList_repr] at hlist
  rw [← Nat.ofDigitChars_ten_toDigits (n := i), hlist, Nat.ofDigitChars_ten_toDigits]

/-- The spelling of an alias. -/
def aliasName (c : Conventions) (index : Nat) : String := c.aliasStem ++ toString index

/-- The name of a parameter. -/
def parameterName (c : Conventions) (index : Nat) : String := c.parameterStem ++ toString index

/-- The spelling of a parameter in the text. -/
def placeholder (c : Conventions) (index : Nat) : String := c.parameterMark ++ c.parameterName index

/-- Whether a character can stand between an alias and a column. -/
def isSeparator (c : Char) : Bool := !(isAlphanumeric c || isBlank c || c = '_')

/-- Whether a setting has a value that query texts can use. -/
def meets (c : Conventions) : Setting → Bool
  | .parameterMark => !c.parameterMark.isEmpty
  | .parameterStem => isAsciiIdentifier c.parameterStem.toList
  | .aliasStem => isAsciiIdentifier c.aliasStem.toList
  | .separator => isSeparator c.separator

/-- The settings in the order in which they are checked. -/
def settings : List Setting := [.parameterMark, .parameterStem, .aliasStem, .separator]

/-- Accepts conventions that can be used, or names the first setting that cannot. -/
def validate (c : Conventions) : Except ConventionError Unit :=
  match settings.find? (!c.meets ·) with
  | none => .ok ()
  | some setting => .error (.invalid setting)

end Conventions

end EntityQuery
