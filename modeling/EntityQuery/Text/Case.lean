import EntityQuery.Text.CaseTable

/-!
Full lower- and uppercase of text. A character may map to several (`ß` to `SS`), and the only
mapping that looks around is the lowercase of a capital sigma, which at the end of a word is `ς`:
the nearest character before it that is not case-ignorable has a case, and the nearest one after
it has none.
-/

namespace EntityQuery.Text

/-- The image of a character under the expansions and runs of one direction, itself by default. -/
def mapCase (expansions : List (Nat × List Nat)) (runs : List CaseRun) (c : Char) : List Char :=
  match expansions.lookup c.toNat with
  | some image => image.map Char.ofNat
  | none => [(runs.findSome? (·.image? c.toNat)).elim c Char.ofNat]

/-- Lowercase of one character, whatever stands around it. -/
def lowerChar (c : Char) : List Char :=
  if c.toNat < 0x80 then [c.toLower] else mapCase lowerExpansions lowerRuns c

/-- Uppercase of one character. -/
def upperChar (c : Char) : List Char :=
  if c.toNat < 0x80 then [c.toUpper] else mapCase upperExpansions upperRuns c

/-- Whether the first character that is not case-ignorable has a case. -/
def meetsCased (s : List Char) : Bool :=
  (s.find? fun c => !caseIgnorable.has c).any cased.has

/-- Lowercase of a text, given the characters before it, nearest first. -/
def lowerAfter (before : List Char) : List Char → List Char
  | [] => []
  | c :: rest =>
    (if c = 'Σ' then (if meetsCased before && !meetsCased rest then ['ς'] else ['σ'])
      else lowerChar c) ++ lowerAfter (c :: before) rest

/-- Lowercase of a text that stands alone. -/
def lowercase (s : List Char) : List Char := lowerAfter [] s

/-- Uppercase of a text. -/
def uppercase (s : List Char) : List Char := s.flatMap upperChar

end EntityQuery.Text
