import EntityQuery.Text.Blank
import EntityQuery.Text.Word

/-!
Tokens of declaration text: the words, literals and marks of which types and attributes are
written, with what stands in parentheses, brackets or braces as one token.

```
Option<'a, time::Date>    word, mark, lifetime, mark, word, double colon, word, mark
(column = "x")            group of word, mark, text
```

Comments and blanks separate tokens, except that a documentation comment stands for the attribute
it abbreviates: a hash sign and a group.
-/

namespace EntityQuery.Declaration

open EntityQuery.Text

/-- A token. -/
inductive Token where
  /-- An identifier or keyword; a raw identifier keeps its `r#`. -/
  | word (s : String)
  /-- A string literal, as the text it stands for. -/
  | text (s : String)
  /-- Any other literal. -/
  | literal
  /-- A lifetime. -/
  | lifetime
  /-- The two colons between the segments of a path. -/
  | doubleColon
  /-- The arrow before a result. -/
  | arrow
  /-- Any other punctuation character. -/
  | mark (c : Char)
  /-- What stands between an opening delimiter and its closing one. -/
  | group (opening : Char) (content : List Token)

/-- A token in which delimiters still stand alone. -/
inductive Lexeme where
  | token (t : Token)
  | opening (c : Char)
  | closing (c : Char)

/-- Whether a character separates tokens: a blank, or one of the two marks of writing direction. -/
def separatesTokens (c : Char) : Bool := isBlank c || c = '\u200e' || c = '\u200f'

/-! ### Texts

Each reader takes what follows the opening quote, and gives the text of the literal and what comes
after its closing quote. -/

/-- The number that hexadecimal digits spell. Underscores between them are ignored. -/
def hexNumber? (digits : List Char) : Option Nat :=
  digits.foldlM (fun n d =>
    if d = '_' then some n
    else if d.isDigit then some (16 * n + (d.toNat - 48))
    else if 'a' ≤ d ∧ d ≤ 'f' then some (16 * n + (d.toNat - 87))
    else if 'A' ≤ d ∧ d ≤ 'F' then some (16 * n + (d.toNat - 55))
    else none) 0

/-- The character with a code point, if there is one. -/
def charOf? (n : Nat) : Option Char := if n.isValidChar then some (Char.ofNat n) else none

/-- The character that an escape of one letter stands for. -/
def escaped? : Char → Option Char
  | 'n' => some '\n'
  | 'r' => some '\r'
  | 't' => some '\t'
  | '0' => some '\x00'
  | '\\' => some '\\'
  | '"' => some '"'
  | '\'' => some '\''
  | _ => none

/-- Whether a character is skipped at the beginning of a line that a backslash joins to the one
before. -/
def isIndent (c : Char) : Bool := c = ' ' || c = '\t' || c = '\n' || c = '\r'

/-- What the reader of a string is doing. -/
inductive StringState where
  | reading
  /-- Skipping the indent after a backslash at the end of a line. -/
  | skipping
  /-- Gathering the digits of a code point in braces, last first. -/
  | codePoint (digits : List Char)

/-- A character in front of a text that was read. -/
def withChar (c : Option Char) (read : Option (List Char × List Char)) :
    Option (List Char × List Char) := do
  let c ← c
  let (text, rest) ← read
  return (c :: text, rest)

/-- Skipping comes before reading at the same place. -/
def StringState.rank : StringState → Nat
  | .skipping => 1
  | .reading | .codePoint _ => 0

/-- A string literal with escapes. A line end is one line feed, however it is written. -/
def quotedText (state : StringState) (s : List Char) : Option (List Char × List Char) :=
  match state, s with
  | _, [] => none
  | .codePoint digits, c :: rest =>
    if c = '\x7d' then
      withChar ((hexNumber? digits.reverse).bind charOf?) (quotedText .reading rest)
    else quotedText (.codePoint (c :: digits)) rest
  | .skipping, c :: rest =>
    if isIndent c then quotedText .skipping rest else quotedText .reading (c :: rest)
  | .reading, '"' :: rest => some ([], rest)
  | .reading, '\r' :: '\n' :: rest => withChar (some '\n') (quotedText .reading rest)
  | .reading, '\\' :: '\n' :: rest => quotedText .skipping rest
  | .reading, '\\' :: '\r' :: '\n' :: rest => quotedText .skipping rest
  | .reading, '\\' :: 'u' :: '\x7b' :: rest => quotedText (.codePoint []) rest
  | .reading, '\\' :: 'x' :: a :: b :: rest =>
    withChar ((hexNumber? [a, b]).bind charOf?) (quotedText .reading rest)
  | .reading, '\\' :: c :: rest => withChar (escaped? c) (quotedText .reading rest)
  | .reading, c :: rest => withChar (some c) (quotedText .reading rest)
termination_by (s.length, state.rank)
decreasing_by all_goals simp [Prod.lex_def, StringState.rank] <;> omega

/-- A string literal without escapes, which ends at a quote before the given number of hashes. -/
def rawText (hashes : Nat) : List Char → Option (List Char × List Char)
  | [] => none
  | c :: rest =>
    if c = '"' ∧ (rest.take hashes).length = hashes ∧ (rest.take hashes).all (· = '#') then
      some ([], rest.drop hashes)
    else do
      let (text, rest) ← rawText hashes rest
      return (c :: text, rest)

/-- A string literal without escapes, from the hashes before its opening quote on. -/
def rawTextFrom (s : List Char) : Option (List Char × List Char) :=
  match s.dropWhile (· = '#') with
  | '"' :: rest => rawText (s.takeWhile (· = '#')).length rest
  | _ => none

/-! ### Other literals, words and comments -/

/-- What comes after a character literal, given what follows its opening quote. -/
def afterChar? : List Char → Option (List Char)
  | '\\' :: _ :: rest =>
    match rest.dropWhile (· ≠ '\'') with
    | _ :: rest => some rest
    | [] => none
  | _ :: '\'' :: rest => some rest
  | _ => none

/-- What comes after a word. -/
def afterWord (s : List Char) : List Char := s.dropWhile continuesWord

/-- What comes after a word that a literal may carry at its end. -/
def afterSuffix (s : List Char) : List Char :=
  if s.head?.any opensWord then afterWord s else s

/-- Whether a character may stand in a row of decimal digits. -/
def isFigure (c : Char) : Bool := c.isDigit || c = '_'

/-- What comes after a decimal exponent, or the same text if there is none. -/
def afterExponent (s : List Char) : List Char :=
  match s with
  | [] => []
  | e :: rest =>
    let unsigned := match rest.dropWhile (· = '_') with
      | [] => []
      | c :: rest => if c = '+' || c = '-' then rest else c :: rest
    if (e = 'e' || e = 'E') && (unsigned.takeWhile isFigure).any Char.isDigit then
      unsigned.dropWhile isFigure
    else s

/-- What comes after a number. A point belongs to it unless a further point or a word follows. -/
def afterNumber (s : List Char) : List Char :=
  let rest := s.dropWhile isFigure
  afterWord <| match rest with
    | '.' :: fraction =>
      if fraction.head?.any fun c => c = '.' || opensWord c then rest
      else afterExponent (fraction.dropWhile isFigure)
    | _ => afterExponent rest

/-- What comes after a lifetime's quote and word. -/
def afterLifetime : List Char → List Char
  | 'r' :: '#' :: rest => afterWord rest
  | rest => afterWord rest

/-- What comes after a comment between `/*` and `*/`, in which further ones may be nested. -/
def afterComment : Nat → List Char → List Char
  | _, [] => []
  | depth, '/' :: '*' :: rest => afterComment (depth + 1) rest
  | 0, '*' :: '/' :: rest => rest
  | depth + 1, '*' :: '/' :: rest => afterComment depth rest
  | depth, _ :: rest => afterComment depth rest

/-- What comes after a comment up to the end of its line. -/
def afterLine (s : List Char) : List Char := s.dropWhile (· ≠ '\n')

/-- The attribute that a documentation comment abbreviates; one with an exclamation mark concerns
the item it stands in. -/
def documentation (inner : Bool) : List Lexeme :=
  let bang := if inner then [Token.mark '!'] else []
  let content := Token.group '[' [.word "doc", .mark '=', .literal]
  (Token.mark '#' :: bang ++ [content]).map .token

/-! ### Lexemes -/

/-- A literal of the given form, read by one of the readers. -/
def literalOf (token : String → Token) (read : Option (List Char × List Char)) :
    Option (List Lexeme × List Char) :=
  read.map fun (text, rest) => ([.token (token (String.ofList text))], afterSuffix rest)

/-- A literal whose value nothing depends on. -/
def plainLiteral (read : Option (List Char × List Char)) : Option (List Lexeme × List Char) :=
  literalOf (fun _ => .literal) read

/-- A word, with what has to stand before it. -/
def wordAfter (mark : String) (s : List Char) : List Lexeme × List Char :=
  ([.token (.word (mark ++ String.ofList (s.takeWhile continuesWord)))], afterWord s)

/-- What a text begins with that is no token. -/
def comment? : List Char → Option (List Lexeme × List Char)
  | '/' :: '/' :: '/' :: '/' :: rest => some ([], afterLine rest)
  | '/' :: '/' :: '/' :: rest => some (documentation false, afterLine rest)
  | '/' :: '/' :: '!' :: rest => some (documentation true, afterLine rest)
  | '/' :: '/' :: rest => some ([], afterLine rest)
  | '/' :: '*' :: '*' :: '/' :: rest => some ([], rest)
  | '/' :: '*' :: '*' :: '*' :: rest => some ([], afterComment 0 ('*' :: '*' :: rest))
  | '/' :: '*' :: '*' :: rest => some (documentation false, afterComment 0 ('*' :: rest))
  | '/' :: '*' :: '!' :: rest => some (documentation true, afterComment 0 rest)
  | '/' :: '*' :: rest => some ([], afterComment 0 rest)
  | _ => none

/-- The literal that a text begins with after its first character `c`, if that opens one. -/
def literal? (c : Char) (rest : List Char) : Option (List Lexeme × List Char) :=
  match c, rest with
  | '"', rest => literalOf .text (quotedText .reading rest)
  | 'r', '"' :: _ | 'r', '#' :: _ => literalOf .text (rawTextFrom rest)
  | 'b', '"' :: rest | 'c', '"' :: rest => plainLiteral (quotedText .reading rest)
  | 'b', 'r' :: rest | 'c', 'r' :: rest => plainLiteral (rawTextFrom rest)
  | 'b', '\'' :: rest | '\'', rest =>
    (afterChar? rest).map fun rest => ([.token .literal], afterSuffix rest)
  | _, _ => if c.isDigit then some ([.token .literal], afterNumber rest) else none

/-- The token that a text begins with that is no literal, given its first character `c`. -/
def plainToken (c : Char) (rest : List Char) : List Lexeme × List Char :=
  match c, rest with
  | '\'', rest => ([.token .lifetime], afterLifetime rest)
  | ':', ':' :: rest => ([.token .doubleColon], rest)
  | '-', '>' :: rest => ([.token .arrow], rest)
  | 'r', '#' :: rest => wordAfter "r#" rest
  | c, rest =>
    if opensWord c then wordAfter "" (c :: rest)
    else if c = '(' ∨ c = '[' ∨ c = '\x7b' then ([.opening c], rest)
    else if c = ')' ∨ c = ']' ∨ c = '\x7d' then ([.closing c], rest)
    else ([.token (.mark c)], rest)

/-- What a text with the first character `c` begins with, and what comes after it. -/
def lexeme (c : Char) (rest : List Char) : List Lexeme × List Char :=
  if separatesTokens c then ([], rest)
  else ((comment? (c :: rest)).orElse fun _ => literal? c rest).getD (plainToken c rest)

/-- The tokens that a text begins with, at most the given number, with delimiters alone. -/
def lexemesWithin : Nat → List Char → List Lexeme
  | _, [] | 0, _ :: _ => []
  | count + 1, c :: rest =>
    let (first, rest) := lexeme c rest
    first ++ lexemesWithin count rest

/-- The tokens of a text, with delimiters alone. Each takes up at least one character, so there are
no more of them than characters. -/
def lexemes (s : List Char) : List Lexeme := lexemesWithin s.length s

/-! ### Groups -/

/-- The delimiter that closes a group. -/
def closingOf (opening : Char) : Char :=
  if opening = '(' then ')' else if opening = '[' then ']' else '\x7d'

/-- Groups tokens, given the groups that are open, innermost first, each with its opening delimiter
and the tokens that stood before it, last first; `done` are those of the innermost group. -/
def group? (outer : List (Char × List Token)) (done : List Token) :
    List Lexeme → Option (List Token)
  | [] => if outer.isEmpty then some done.reverse else none
  | .token t :: rest => group? outer (t :: done) rest
  | .opening c :: rest => group? ((c, done) :: outer) [] rest
  | .closing c :: rest =>
    match outer with
    | [] => none
    | (opening, before) :: outer =>
      if c = closingOf opening then group? outer (.group opening done.reverse :: before) rest
      else none

/-- The tokens of a text. -/
def tokens? (s : String) : Option (List Token) := group? [] [] (lexemes s.toList)

end EntityQuery.Declaration
