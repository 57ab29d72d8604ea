import EntityQuery.Text.WordTable

/-!
Words of a programming text: a letter or underscore, and then letters, digits, marks and
connectors, as the Unicode properties `XID_Start` and `XID_Continue` have it. ASCII words are
decided without a table.
-/

namespace EntityQuery.Text

/-- Whether a character may open a word. -/
def opensWord (c : Char) : Bool :=
  if c.toNat < 0x80 then c.isAlpha || c = '_' else wordStartBeyondAscii.has c

/-- Whether a character may go on a word. -/
def continuesWord (c : Char) : Bool :=
  if c.toNat < 0x80 then c.isAlphanum || c = '_' else wordRestBeyondAscii.has c

end EntityQuery.Text
