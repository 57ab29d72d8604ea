import EntityQuery.Text.Alphanumeric

/-!
Identifiers: a letter or underscore followed by letters, numbers and underscores, over the whole
character set or over ASCII alone.
-/

namespace EntityQuery.Text

/-- Whether a text is nonempty, opens with a character of `first` and goes on within `next`. -/
def isName (first next : Char → Bool) : List Char → Bool
  | [] => false
  | c :: rest => first c && rest.all next

/-- Whether a text is an identifier in any script. -/
def isIdentifier : List Char → Bool :=
  isName (fun c => isAlphabetic c || c = '_') (fun c => isAlphanumeric c || c = '_')

/-- Whether a text is an identifier in ASCII. -/
def isAsciiIdentifier : List Char → Bool :=
  isName (fun c => c.isAlpha || c = '_') (fun c => c.isAlphanum || c = '_')

end EntityQuery.Text
