import EntityQuery.Statement.Conventions

/-!
Settings documents: conventions as text. A document has one setting a line,

```
# how queries are spelled
alias_prefix = "t"
like_wildcard = '*'
```

with a string after the equals sign in one of the four forms of TOML: between double quotes, with
escapes, or between single quotes, without; and either between three quotes instead of one, over
several lines. Blank lines and comments may stand in between. No document with anything else in it
describes conventions, since every setting is a string.
-/

namespace EntityQuery.Settings

/-! ### Characters -/

/-- Whether a character may stand in a line: a tab, or anything but a control. -/
def isPlain (c : Char) : Bool := c = '\t' || 0x20 ≤ c.toNat && c.toNat ≠ 0x7f

/-- Whether a character is a blank within a line. -/
def isGap (c : Char) : Bool := c = ' ' || c = '\t'

/-- Whether a character may stand in a key without quotes. -/
def isBareKey (c : Char) : Bool := c.isAlphanum || c = '_' || c = '-'

/-- The number that a hexadecimal digit stands for. -/
def hexValue? (c : Char) : Option Nat :=
  if c.isDigit then some (c.toNat - 48)
  else if 'a' ≤ c ∧ c ≤ 'f' then some (c.toNat - 87)
  else if 'A' ≤ c ∧ c ≤ 'F' then some (c.toNat - 55)
  else none

/-- The character with the code point that hexadecimal digits spell, if there is one. -/
def codePoint? (digits : List Char) : Option Char := do
  let n ← digits.foldlM (fun n d => (hexValue? d).map (16 * n + ·)) 0
  if n.isValidChar then some (Char.ofNat n) else none

/-- The character that an escape of one letter stands for. -/
def shortEscape? : Char → Option Char
  | '"' => some '"'
  | '\\' => some '\\'
  | 'b' => some '\x08'
  | 'e' => some '\x1b'
  | 'f' => some '\x0c'
  | 'n' => some '\n'
  | 'r' => some '\r'
  | 't' => some '\t'
  | _ => none

/-! ### Strings

Each reader takes what follows the opening quotes, and gives the text up to the closing ones and
what comes after them. -/

/-- A character in front of a text that was read. -/
def before (c : Option Char) (read : Option (List Char × List Char)) :
    Option (List Char × List Char) :=
  match c, read with
  | some c, some (text, rest) => some (c :: text, rest)
  | _, _ => none

/-- A string between double quotes. -/
def quoted : List Char → Option (List Char × List Char)
  | [] => none
  | '"' :: rest => some ([], rest)
  | '\\' :: 'x' :: a :: b :: rest => before (codePoint? [a, b]) (quoted rest)
  | '\\' :: 'u' :: a :: b :: c :: d :: rest => before (codePoint? [a, b, c, d]) (quoted rest)
  | '\\' :: 'U' :: a :: b :: c :: d :: e :: f :: g :: h :: rest =>
    before (codePoint? [a, b, c, d, e, f, g, h]) (quoted rest)
  | '\\' :: c :: rest => before (shortEscape? c) (quoted rest)
  | c :: rest => if isPlain c then before (some c) (quoted rest) else none

/-- A string between single quotes. -/
def literal : List Char → Option (List Char × List Char)
  | [] => none
  | '\'' :: rest => some ([], rest)
  | c :: rest => if isPlain c then before (some c) (literal rest) else none

/-- Whether nothing but blanks stands before the end of the line. -/
def endsLine : List Char → Bool
  | '\n' :: _ => true
  | '\r' :: '\n' :: _ => true
  | c :: rest => isGap c && endsLine rest
  | [] => false

/-- A string between three double quotes. After a backslash at the end of a line, everything up to
the next character that is no blank or line end is skipped; `skipping` tells whether that is going
on. Up to two quotes may stand directly before the closing ones. -/
def longQuoted (skipping : Bool) : List Char → Option (List Char × List Char)
  | [] => none
  | '\n' :: rest =>
    if skipping then longQuoted true rest else before (some '\n') (longQuoted false rest)
  | '\r' :: '\n' :: rest =>
    if skipping then longQuoted true rest
    else before (some '\r') (before (some '\n') (longQuoted false rest))
  | '"' :: '"' :: '"' :: '"' :: '"' :: rest => some (['"', '"'], rest)
  | '"' :: '"' :: '"' :: '"' :: rest => some (['"'], rest)
  | '"' :: '"' :: '"' :: rest => some ([], rest)
  | '\\' :: 'x' :: a :: b :: rest => before (codePoint? [a, b]) (longQuoted false rest)
  | '\\' :: 'u' :: a :: b :: c :: d :: rest =>
    before (codePoint? [a, b, c, d]) (longQuoted false rest)
  | '\\' :: 'U' :: a :: b :: c :: d :: e :: f :: g :: h :: rest =>
    before (codePoint? [a, b, c, d, e, f, g, h]) (longQuoted false rest)
  | '\\' :: c :: rest =>
    if endsLine (c :: rest) then longQuoted true (c :: rest)
    else before (shortEscape? c) (longQuoted false rest)
  | c :: rest =>
    if skipping && isGap c then longQuoted true rest
    else if isPlain c then before (some c) (longQuoted false rest)
    else none

/-- A string between three single quotes. -/
def longLiteral : List Char → Option (List Char × List Char)
  | [] => none
  | '\n' :: rest => before (some '\n') (longLiteral rest)
  | '\r' :: '\n' :: rest => before (some '\r') (before (some '\n') (longLiteral rest))
  | '\'' :: '\'' :: '\'' :: '\'' :: '\'' :: rest => some (['\'', '\''], rest)
  | '\'' :: '\'' :: '\'' :: '\'' :: rest => some (['\''], rest)
  | '\'' :: '\'' :: '\'' :: rest => some ([], rest)
  | c :: rest => if isPlain c then before (some c) (longLiteral rest) else none

/-- The text after a line end, if it begins with one. -/
def afterLineEnd : List Char → List Char
  | '\n' :: rest => rest
  | '\r' :: '\n' :: rest => rest
  | s => s

/-- A string in any of the four forms. A line end directly after three quotes is no part of it. -/
def string? : List Char → Option (List Char × List Char)
  | '"' :: '"' :: '"' :: rest => longQuoted false (afterLineEnd rest)
  | '\'' :: '\'' :: '\'' :: rest => longLiteral (afterLineEnd rest)
  | '"' :: rest => quoted rest
  | '\'' :: rest => literal rest
  | _ => none

/-! ### Lines -/

/-- A key, bare or as a string within its line. -/
def key? : List Char → Option (List Char × List Char)
  | '"' :: rest => quoted rest
  | '\'' :: rest => literal rest
  | s => if s.head?.any isBareKey then some (s.span isBareKey) else none

/-- What stands after the blanks of a line. -/
def skipGaps (s : List Char) : List Char := s.dropWhile isGap

/-- A setting: a key, an equals sign and a string. -/
def setting? (s : List Char) : Option ((List Char × List Char) × List Char) := do
  let (key, rest) ← key? s
  match skipGaps rest with
  | '=' :: rest =>
    let (value, rest) ← string? (skipGaps rest)
    return ((key, value), rest)
  | _ => none

/-- What stands after the rest of a line, which may hold a comment. -/
def lineRest? (s : List Char) : Option (List Char) :=
  let s := skipGaps s
  let s := if s.head? = some '#' then s.dropWhile isPlain else s
  match s with
  | [] => some []
  | '\n' :: rest => some rest
  | '\r' :: '\n' :: rest => some rest
  | _ => none

/-- The setting of a line, if it has one, and what stands after the line. -/
def line? (s : List Char) : Option (Option (List Char × List Char) × List Char) :=
  let s := skipGaps s
  match lineRest? s with
  | some rest => some (none, rest)
  | none => do
    let (setting, rest) ← setting? s
    let rest ← lineRest? rest
    return (some setting, rest)

/-- The settings of at most the given number of lines, in order. -/
def linesWithin? : Nat → List Char → Option (List (List Char × List Char))
  | _, [] => some []
  | 0, _ :: _ => none
  | count + 1, s => do
    let (setting, rest) ← line? s
    let others ← linesWithin? count rest
    return setting.toList ++ others

/-- The settings of a document in order. Each line takes up at least one character, so there are no
more of them than characters. -/
def lines? (s : List Char) : Option (List (List Char × List Char)) := linesWithin? s.length s

/-- The settings of a document, which may begin with a byte order mark and in which no key stands
twice. -/
def read? (text : String) : Option (List (String × String)) := do
  let s := match text.toList with
    | '\ufeff' :: rest => rest
    | s => s
  let settings ← lines? s
  let keys := settings.map (·.1)
  if keys.eraseDups.length = keys.length then
    return settings.map fun (key, value) => (String.ofList key, String.ofList value)
  else none

end EntityQuery.Settings

namespace EntityQuery.Conventions

/-- The conventions with one setting changed, if there is such a setting and it can hold the
value. -/
def set? (c : Conventions) (key value : String) : Option Conventions :=
  match key with
  | "parameter_prefix" => some { c with parameterMark := value }
  | "parameter_name" => some { c with parameterStem := value }
  | "alias_prefix" => some { c with aliasStem := value }
  | "separator" =>
    match value.toList with
    | [separator] => some { c with separator }
    | _ => none
  | "like_wildcard" => some { c with wildcard := value }
  | _ => none

/-- The default conventions with some settings changed. -/
def ofSettings? (settings : List (String × String)) : Option Conventions :=
  settings.foldlM (fun c (key, value) => c.set? key value) {}

/-- The conventions that a document describes, if they can be used. -/
def ofDocument (text : String) : Except ConventionError Conventions :=
  match (Settings.read? text).bind ofSettings? with
  | none => .error .unreadable
  | some c => (c.validate).map fun _ => c

end EntityQuery.Conventions
