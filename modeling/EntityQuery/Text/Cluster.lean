import EntityQuery.Text.ClusterTable

/-!
Grapheme clusters: what a reader takes for one character, such as a letter with its accents. A text
is cut between any two characters that nothing ties together. What ties them:

```
line end      CR LF                         return, then line feed
mark          any, then mark or joiner      but not after a control
prefix        prefix, then any              but not a control
syllable      L* (V+ | LV V* | LVT) T*      jamo and syllable blocks
conjunct      consonant, linker, consonant  marks and joiners may stand between
pictographs   pictograph, joiner, pictograph
flag          two regional indicators
```

All of it can be read off the end of the cluster so far, so clusters are one scan over the text.
-/

namespace EntityQuery.Text

/-- The zero-width joiner. -/
def joiner : Char := '\u200d'

/-- The zero-width non-joiner: a mark, but no conjunct goes on across it. -/
def nonJoiner : Char := '\u200c'

/-- Whether a character stays with the one before it unless that is a control. -/
def isMark (c : Char) : Bool :=
  c = joiner || clusterExtend.has c || clusterSpacing.has c

/-- Whether a mark may stand between a consonant and its linker, or a linker and its consonant. -/
def keepsConjunct (c : Char) : Bool :=
  c = joiner || clusterExtend.has c && c != nonJoiner

/-- The first and the last syllable block. -/
def syllableBlocks : CharClass := [(0xAC00, 0xD7A3)]

/-- Whether a character is a syllable block without a trailing consonant; every twenty-eighth is. -/
def isOpenSyllable (c : Char) : Bool := syllableBlocks.has c && (c.toNat - 0xAC00) % 28 == 0

/-- Whether a character is a syllable block with a trailing consonant. -/
def isClosedSyllable (c : Char) : Bool := syllableBlocks.has c && (c.toNat - 0xAC00) % 28 != 0

/-- What the end of a cluster still asks of the next character. -/
inductive ClusterEnd where
  /-- The next character begins a cluster, whatever it is. -/
  | closed
  /-- A carriage return: a line feed belongs to it. -/
  | carriage
  /-- Marks may follow. -/
  | ordinary
  /-- Whatever follows belongs here, unless it is a control. -/
  | prepending
  /-- Leading consonants of a syllable. -/
  | leading
  /-- A syllable up to its vowels. -/
  | vowel
  /-- A syllable with a trailing consonant. -/
  | trailing
  /-- A regional indicator that has no partner yet. -/
  | halfFlag
  /-- A consonant and its marks. -/
  | consonant
  /-- A consonant and its marks, a linker among them. -/
  | linked
  /-- A pictograph and its marks. -/
  | pictograph
  /-- A pictograph, its marks and a joiner. -/
  | joined
deriving DecidableEq

/-- The end of a cluster after a mark, or after a character that ties itself to nothing. -/
def ClusterEnd.pushPlain (e : ClusterEnd) (c : Char) : ClusterEnd :=
  match e with
  | .consonant =>
    if conjunctLinker.has c then .linked else if keepsConjunct c then .consonant else .ordinary
  | .linked => if keepsConjunct c then .linked else .ordinary
  | .pictograph =>
    if c = joiner then .joined else if clusterExtend.has c then .pictograph else .ordinary
  | _ => .ordinary

/-- The end of a cluster after one more character. -/
def ClusterEnd.push (e : ClusterEnd) (c : Char) : ClusterEnd :=
  if c = '\r' then .carriage
  else if clusterControl.has c then .closed
  else if clusterPrepend.has c then .prepending
  else if hangulLeading.has c then .leading
  else if hangulVowel.has c || isOpenSyllable c then .vowel
  else if hangulTrailing.has c || isClosedSyllable c then .trailing
  else if regionalIndicators.has c then if e = .halfFlag then .ordinary else .halfFlag
  else if conjunctConsonant.has c then .consonant
  else if clusterPictograph.has c then .pictograph
  else e.pushPlain c

/-- What continues a cluster with the given end apart from marks, if it is no control. -/
def ClusterEnd.expects (e : ClusterEnd) (c : Char) : Bool :=
  match e with
  | .prepending => true
  | .leading => hangulLeading.has c || hangulVowel.has c || syllableBlocks.has c
  | .vowel => hangulVowel.has c || hangulTrailing.has c
  | .trailing => hangulTrailing.has c
  | .halfFlag => regionalIndicators.has c
  | .linked => conjunctConsonant.has c
  | .joined => clusterPictograph.has c
  | .closed | .carriage | .ordinary | .consonant | .pictograph => false

/-- Whether a character continues a cluster with the given end. -/
def ClusterEnd.admits (e : ClusterEnd) (c : Char) : Bool :=
  match e with
  | .closed => false
  | .carriage => c = '\n'
  | e => !clusterControl.has c && (isMark c || e.expects c)

/-- The clusters of a text, given the end of the cluster before its first character. -/
def clustersAfter (e : ClusterEnd) : List Char → List (List Char)
  | [] => []
  | c :: rest =>
    let next := e.push c
    match clustersAfter next rest with
    | [] => [[c]]
    | tail@(cluster :: others) =>
      if rest.head?.any next.admits then (c :: cluster) :: others else [c] :: tail

/-- The grapheme clusters of a text, in order. -/
def clusters (s : List Char) : List (List Char) := clustersAfter .closed s

end EntityQuery.Text
