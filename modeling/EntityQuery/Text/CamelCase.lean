import EntityQuery.Text.Case
import EntityQuery.Text.Cluster

/-!
Camel case. A text falls into words at underscores, hyphens and spaces, which are dropped, and
between two clusters where the case or the kind changes:

```
line2_text   line|2|text      HTTPServer   HTTP|Server      lastName   last|Name
```

The first word is written in lowercase and every other one with a capital in front; nothing stands
between them. Words may be empty, so a leading underscore capitalises what follows it.
-/

namespace EntityQuery.Text

/-- Whether a cluster is a capital: uppercase, and with a lowercase of its own. -/
def isCapital (cluster : List Char) : Bool :=
  uppercase cluster == cluster && lowercase cluster != uppercase cluster

/-- Whether a cluster is a small letter: lowercase, and with an uppercase of its own. -/
def isSmall (cluster : List Char) : Bool :=
  lowercase cluster == cluster && lowercase cluster != uppercase cluster

/-- Whether a cluster consists of ASCII digits. -/
def isDigits (cluster : List Char) : Bool := cluster.all Char.isDigit

/-- Whether a cluster separates words and belongs to none. -/
def isDelimiter (cluster : List Char) : Bool :=
  cluster == ['_'] || cluster == ['-'] || cluster == [' ']

/-- Whether a word ends with the cluster `c` when the clusters `rest` follow it. -/
def endsWord (c : List Char) (rest : List (List Char)) : Bool :=
  match rest with
  | [] => false
  | d :: after =>
    isSmall c && (isCapital d || isDigits d) ||
    isCapital c && isDigits d ||
    isDigits c && (isSmall d || isCapital d) ||
    isCapital c && isCapital d && after.head?.any isSmall

/-- The words of a sequence of clusters. There is always at least one, perhaps empty. -/
def words : List (List Char) → List (List Char)
  | [] => [[]]
  | c :: rest =>
    if isDelimiter c then [] :: words rest
    else if endsWord c rest then c :: words rest
    else match words rest with
      | [] => [c]
      | word :: others => (c ++ word) :: others

/-- A word with its first character in uppercase and the others in lowercase. -/
def capitalize : List Char → List Char
  | [] => []
  | c :: rest => upperChar c ++ lowercase rest

/-- Words joined in camel case. -/
def joinCamel : List (List Char) → List Char
  | [] => []
  | word :: others => lowercase word ++ others.flatMap capitalize

/-- The camel case form of a text. -/
def camelCase (s : List Char) : List Char := joinCamel (words (clusters s))

end EntityQuery.Text
