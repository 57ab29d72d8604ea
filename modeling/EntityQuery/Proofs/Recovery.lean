import EntityQuery.Proofs.Segment
import Mathlib.Data.List.DropRight

/-!
Recovery of a path from its key. Reading a path drops blanks around it and type arguments behind the
method, and nothing else: the display text of the key is the path up to these, and reads as the key
again.

```
path       app::Person::pick::<u8>
key        app::Person, pick
display    app::Person::pick
```
-/

namespace EntityQuery.Text

/-! ### Blanks at the ends -/

/-- A text has no blank at either end. -/
structure Trimmed (s : List Char) : Prop where
  head : ∀ c ∈ s.head?, isBlank c = false
  last : ∀ c ∈ s.getLast?, isBlank c = false

theorem head?_of_beginning {s t : List Char} (h : s <+: t) : ∀ c ∈ s.head?, c ∈ t.head? := by
  obtain ⟨rest, rfl⟩ := h
  intro c hc
  rw [List.head?_append, Option.mem_def.mp hc]
  rfl

theorem head?_dropWhile_isBlank (s : List Char) :
    ∀ c ∈ (s.dropWhile isBlank).head?, isBlank c = false := by
  intro c hc
  have hnot := List.head?_dropWhile_not isBlank s
  rwa [Option.mem_def.mp hc] at hnot

theorem dropWhile_isBlank_of_head {s : List Char} (h : ∀ c ∈ s.head?, isBlank c = false) :
    s.dropWhile isBlank = s := by
  cases s with
  | nil => rfl
  | cons c rest => exact List.dropWhile_cons_of_neg (ne_true_of_eq_false (h c rfl))

theorem trimmed_trim (s : List Char) : Trimmed (trim s) where
  head c hc := head?_dropWhile_isBlank s c
    (head?_of_beginning (List.rdropWhile_prefix isBlank (s.dropWhile isBlank)) c hc)
  last c hc := by
    rw [trim, List.getLast?_reverse] at hc
    exact head?_dropWhile_isBlank _ c hc

/-- Blanks around a text that has none at its ends are cut off. -/
theorem trim_surrounded {before s after : List Char} (hbefore : ∀ c ∈ before, isBlank c)
    (hafter : ∀ c ∈ after, isBlank c) (hne : s ≠ []) (hs : Trimmed s) :
    trim (before ++ s ++ after) = s := by
  have hfront : (before ++ s ++ after).dropWhile isBlank = s ++ after := by
    rw [List.append_assoc, List.dropWhile_append_of_pos hbefore]
    refine dropWhile_isBlank_of_head fun c hc => hs.head c ?_
    rwa [List.head?_append_of_ne_nil _ hne] at hc
  have hback : (after.reverse ++ s.reverse).dropWhile isBlank = s.reverse := by
    rw [List.dropWhile_append_of_pos fun c hc => hafter c (List.mem_reverse.mp hc)]
    exact dropWhile_isBlank_of_head fun c hc => hs.last c (by rwa [List.head?_reverse] at hc)
  rw [trim, hfront, List.reverse_append, hback, List.reverse_reverse]

theorem Trimmed.trim_eq {s : List Char} (h : Trimmed s) : trim s = s := by
  rw [trim, dropWhile_isBlank_of_head h.head, dropWhile_isBlank_of_head, List.reverse_reverse]
  exact fun c hc => h.last c (by rwa [List.head?_reverse] at hc)

/-! ### The characters of identifiers -/

/-- Between the digit zero and the small z there is no blank. -/
theorem not_isBlank_of_range {c : Char} (h : 0x30 ≤ c.toNat ∧ c.toNat ≤ 0x7A) : isBlank c = false := by
  have hrange : CharClass.has [(0x30, 0x7A)] c := by simpa [CharClass.has] using h
  exact CharClass.has_eq_false (by decide) hrange

/-- A character may stand in an identifier. -/
def InIdentifier (c : Char) : Prop := isAlphanumeric c || c = '_'

instance (c : Char) : Decidable (InIdentifier c) := inferInstanceAs (Decidable (_ = true))

theorem inIdentifier {s : List Char} (h : isIdentifier s) : ∀ c ∈ s, InIdentifier c := by
  cases s with
  | nil => cases h
  | cons first rest =>
    obtain ⟨hfirst, hrest⟩ := Bool.and_eq_true_iff.mp h
    intro c hc
    rcases List.mem_cons.mp hc with rfl | hc
    · unfold InIdentifier isAlphanumeric
      rcases Bool.or_eq_true_iff.mp hfirst with hletter | hline
      · rw [hletter]
        rfl
      · rw [hline, Bool.or_true]
    · exact List.all_eq_true.mp hrest c hc

/-- Identifiers have none of the characters that paths are cut and marked by. -/
theorem InIdentifier.plain {c : Char} (h : InIdentifier c) :
    c ≠ ':' ∧ c ≠ '<' ∧ c ≠ '>' ∧ c ≠ '-' ∧ c ≠ '\x7b' := by
  refine ⟨?_, ?_, ?_, ?_, ?_⟩ <;> rintro rfl <;> exact absurd h (by decide)

/-- Identifiers have no blanks. -/
theorem InIdentifier.not_isBlank {c : Char} (h : InIdentifier c) : isBlank c = false := by
  unfold InIdentifier isAlphanumeric isAlphabetic isNumeric at h
  by_cases hascii : c.toNat < 0x80
  · refine not_isBlank_of_range ?_
    simp only [if_pos hascii, Bool.or_eq_true, decide_eq_true_eq] at h
    rcases h with (h | h) | rfl
    · have hletter := isAlpha_range h
      omega
    · have hdigit := isDigit_range h
      omega
    · decide
  · simp only [if_neg hascii, Bool.or_eq_true, decide_eq_true_eq] at h
    rcases h with (h | h) | rfl
    · exact CharClass.has_eq_false (by decide +kernel) h
    · exact CharClass.has_eq_false (by decide +kernel) h
    · decide

/-- A text that ends in an identifier does not end in a blank. -/
theorem not_isBlank_last {name : List Char} (h : isIdentifier name) (front : List Char) :
    ∀ c ∈ (front ++ name).getLast?, isBlank c = false := by
  have hne : name ≠ [] := by
    rintro rfl
    cases h
  intro c hc
  rw [List.getLast?_append_of_ne_nil _ hne] at hc
  exact (inIdentifier h c (List.mem_of_getLast? hc)).not_isBlank

end EntityQuery.Text

namespace EntityQuery.Field.Key

open EntityQuery.Text

/-! ### What a path is read as -/

/-- Nothing marks a path as one that names no method. -/
structure Unmarked (path : List Char) : Prop where
  closure : ¬closureMark <:+: path
  pointer : ∀ mark ∈ pointerMarks, ¬mark <+: path

theorem Unmarked.of_beginning {path longer : List Char} (h : Unmarked longer) (hbeginning : path <+: longer) :
    Unmarked path where
  closure hmark := h.closure (hmark.trans hbeginning.isInfix)
  pointer mark hmark hfront := h.pointer mark hmark (hfront.trans hbeginning)

/-- Type arguments behind a method: none, or a segment that begins with a bracket. -/
def IsTurbofish (segments : List (List Char)) : Prop :=
  segments = [] ∨ ∃ arguments, segments = ['<' :: arguments]

/-- A path is read as a key: its segments are those of the declaring type, the method and perhaps type
arguments. -/
structure Reads (path : List Char) (k : Key) (turbofish : List (List Char)) : Prop where
  unmarked : Unmarked path
  segments : ∃ declaring, declaring ≠ [] ∧ k.declaring.toList = joinSegments declaring ∧
    segments path = declaring ++ k.method.toList :: turbofish
  method : isIdentifier k.method.toList
  turbofish : IsTurbofish turbofish

theorem occursIn_iff {part : List Char} : ∀ {s : List Char}, occursIn part s ↔ part <:+: s
  | [] => by rw [occursIn, List.isEmpty_iff, List.infix_nil]
  | c :: rest => by
    rw [occursIn, Bool.or_eq_true, List.isPrefixOf_iff_prefix, occursIn_iff, List.infix_cons_iff]

theorem unmarked_iff {path : List Char} : Unmarked path ↔
    ¬occursIn closureMark path ∧ ¬pointerMarks.any (·.isPrefixOf path) := by
  rw [occursIn_iff, List.any_eq_true]
  constructor
  · rintro ⟨hclosure, hpointer⟩
    refine ⟨hclosure, ?_⟩
    rintro ⟨mark, hmark, hfront⟩
    exact hpointer mark hmark (List.isPrefixOf_iff_prefix.mp hfront)
  · rintro ⟨hclosure, hpointer⟩
    exact ⟨hclosure, fun mark hmark hfront =>
      hpointer ⟨mark, hmark, List.isPrefixOf_iff_prefix.mpr hfront⟩⟩

theorem not_begins_with_bracket {name : List Char} (h : isIdentifier name) : ¬['<'] <+: name := by
  intro hbracket
  exact (inIdentifier h '<' (hbracket.subset (by decide))).plain.2.1 rfl

/-- Nothing is dropped behind a method. -/
theorem dropArguments_cons {method : List Char} (h : ¬['<'] <+: method) (front : List (List Char)) :
    dropArguments (method :: front) = method :: front := by
  unfold dropArguments
  split
  next heq =>
    obtain ⟨rfl, -⟩ := List.cons.inj heq
    exact absurd (List.prefix_append ['<'] _) h
  next => rfl

/-- What is left without type arguments ends in a method exactly if that stands last, or before type
arguments. -/
theorem dropArguments_eq_iff {segments declaring : List (List Char)} {method : List Char}
    (hmethod : isIdentifier method) :
    dropArguments segments.reverse = method :: declaring.reverse ↔
      ∃ turbofish, IsTurbofish turbofish ∧ segments = declaring ++ method :: turbofish := by
  constructor
  · intro h
    unfold dropArguments at h
    split at h
    next arguments last front hsegments =>
      refine ⟨['<' :: arguments], .inr ⟨arguments, rfl⟩, ?_⟩
      rw [h] at hsegments
      simpa using congrArg List.reverse hsegments
    next =>
      exact ⟨[], .inl rfl, by simpa using congrArg List.reverse h⟩
  · rintro ⟨turbofish, rfl | ⟨arguments, rfl⟩, rfl⟩
    · rw [List.reverse_append, List.reverse_singleton, List.singleton_append]
      exact dropArguments_cons (not_begins_with_bracket hmethod) _
    · simp [dropArguments]

/-- A trimmed path comes down to a key exactly if it is read as the key. -/
theorem ofTrimmed_eq_ok_iff {path : List Char} {k : Key} :
    ofTrimmed path = .ok k ↔ ∃ turbofish, Reads path k turbofish := by
  constructor
  · intro h
    unfold ofTrimmed at h
    split at h
    · cases h
    · split at h
      · cases h
      next hclosure hpointer =>
        split at h
        next method last others hsegments =>
          split at h
          next hmethod =>
            cases h
            have hdrop : dropArguments (Key.segments path).reverse =
                method :: (last :: others).reverse.reverse := by rw [hsegments, List.reverse_reverse]
            obtain ⟨turbofish, hturbofish, hpath⟩ := (dropArguments_eq_iff hmethod).mp hdrop
            refine ⟨turbofish, unmarked_iff.mpr ⟨hclosure, hpointer⟩,
              ⟨_, ?_, String.toList_ofList, ?_⟩, ?_, hturbofish⟩
            · simp
            · rw [String.toList_ofList]
              exact hpath
            · rwa [String.toList_ofList]
          next => cases h
        next => cases h
  · rintro ⟨turbofish, hunmarked, ⟨declaring, hne, hdeclaring, hsegments⟩, hmethod, hturbofish⟩
    obtain ⟨hclosure, hpointer⟩ := unmarked_iff.mp hunmarked
    have hdrop := (dropArguments_eq_iff hmethod).mpr ⟨turbofish, hturbofish, hsegments⟩
    obtain ⟨last, others, hreverse⟩ :=
      List.exists_cons_of_ne_nil fun h => hne (List.reverse_eq_nil_iff.mp h)
    rw [ofTrimmed, if_neg hclosure, if_neg hpointer, hdrop, hreverse]
    dsimp only
    rw [if_pos hmethod, ← hreverse, List.reverse_reverse, ← hdeclaring, String.ofList_toList,
      String.ofList_toList]

theorem ofPath_eq_ok_iff {path : String} {k : Key} :
    ofPath path = .ok k ↔ ∃ turbofish, Reads (trim path.toList) k turbofish := by
  rw [← ofTrimmed_eq_ok_iff, ofPath]
  cases ofTrimmed (trim path.toList) <;> simp [Except.mapError]

/-! ### The display text -/

theorem display_toList (k : Key) :
    k.display.toList = k.declaring.toList ++ ':' :: ':' :: k.method.toList := by
  rw [display, String.toList_append, String.toList_append, List.append_assoc]
  rfl

section

variable {path : List Char} {k : Key} {turbofish : List (List Char)}

/-- The path is the display text of the key, up to type arguments. -/
theorem Reads.path_eq (h : Reads path k turbofish) :
    path = joinSegments (k.display.toList :: turbofish) := by
  obtain ⟨declaring, hne, hdeclaring, hsegments⟩ := h.segments
  have hpath := joinSegments_segments path
  rcases h.turbofish with rfl | ⟨arguments, rfl⟩
  · rw [hsegments, joinSegments_concat _ hne] at hpath
    rw [joinSegments, display_toList, hdeclaring, hpath]
  · rw [hsegments, ← List.singleton_append, ← List.append_assoc, joinSegments_concat _ (by simp),
      joinSegments_concat _ hne] at hpath
    rw [joinSegments_cons _ (List.cons_ne_nil _ _), joinSegments, display_toList, hdeclaring, hpath]

theorem Reads.display_beginning (h : Reads path k turbofish) : k.display.toList <+: path := by
  rw [h.path_eq]
  rcases h.turbofish with rfl | ⟨arguments, rfl⟩
  · exact List.prefix_rfl
  · rw [joinSegments_cons _ (List.cons_ne_nil _ _)]
    exact List.prefix_append _ _

/-- The display text is read as the key again, and has no type arguments. -/
theorem Reads.display (h : Reads path k turbofish) : Reads k.display.toList k [] where
  unmarked := h.unmarked.of_beginning h.display_beginning
  segments := by
    obtain ⟨declaring, hne, hdeclaring, hsegments⟩ := h.segments
    refine ⟨declaring, hne, hdeclaring, ?_⟩
    have hdisplay : k.display.toList = joinSegments (declaring ++ [k.method.toList]) := by
      rw [display_toList, hdeclaring, joinSegments_concat _ hne]
    rcases h.turbofish with rfl | ⟨arguments, rfl⟩
    · rw [hdisplay, ← hsegments, joinSegments_segments]
    · have hinitial : Key.segments path = (declaring ++ [k.method.toList]) ++ ['<' :: arguments] := by
        rw [hsegments, List.append_assoc, List.singleton_append]
      rw [hdisplay]
      exact segmentsWithin_initial (by simp) hinitial
  method := h.method
  turbofish := .inl rfl

/-- If the path has no blank at its ends, the display text has none. -/
theorem Reads.trimmed_display (h : Reads path k turbofish) (hpath : Trimmed path) :
    Trimmed k.display.toList where
  head c hc := hpath.head c (head?_of_beginning h.display_beginning c hc)
  last := by
    have hdisplay : k.display.toList = (k.declaring.toList ++ [':', ':']) ++ k.method.toList := by
      rw [display_toList, List.append_assoc]
      rfl
    rw [hdisplay]
    exact not_isBlank_last h.method _

end

end EntityQuery.Field.Key

namespace EntityQuery

open EntityQuery.Text EntityQuery.Field

/-- The last segment of a path, blanks around the path aside, is of type arguments. -/
def EndsInArguments (path : String) : Prop :=
  ∃ last ∈ (Key.segments (trim path.toList)).getLast?, ['<'] <+: last

instance (path : String) : Decidable (EndsInArguments path) :=
  inferInstanceAs (Decidable (∃ last ∈ (Key.segments (trim path.toList)).getLast?, ['<'] <+: last))

/-- A path that is read as a key ends in type arguments exactly if these are no part of it. -/
theorem Field.Key.Reads.endsInArguments_iff {path : String} {k : Key} {turbofish : List (List Char)}
    (h : Key.Reads (trim path.toList) k turbofish) : EndsInArguments path ↔ turbofish ≠ [] := by
  obtain ⟨declaring, -, -, hsegments⟩ := h.segments
  unfold EndsInArguments
  rw [hsegments, List.getLast?_append_of_ne_nil _ (List.cons_ne_nil _ _)]
  rcases h.turbofish with rfl | ⟨arguments, rfl⟩
  · refine iff_of_false ?_ fun hne => hne rfl
    rintro ⟨last, hlast, rest, hbracket⟩
    exact Key.not_begins_with_bracket h.method ⟨rest, hbracket.trans (Option.some.inj hlast).symm⟩
  · exact iff_of_true ⟨'<' :: arguments, rfl, arguments, rfl⟩ (List.cons_ne_nil _ _)

/-- RECOVERY: a path that has a key is the display text of the key, or that text and type arguments, but
for the blanks around it; the display text has the same key; and paths without type arguments have the
same key only if they are the same. -/
theorem path_recovered_from_key {path : String} {k : Key} (h : Key.ofPath path = .ok k) :
    (¬EndsInArguments path ∧ trim path.toList = k.display.toList ∨
      EndsInArguments path ∧ ∃ arguments,
        trim path.toList = k.display.toList ++ ':' :: ':' :: '<' :: arguments) ∧
    Key.ofPath k.display = .ok k ∧
    ∀ other l, Key.ofPath other = .ok l → ¬EndsInArguments path → ¬EndsInArguments other →
      (k = l ↔ trim path.toList = trim other.toList) := by
  have hplain : ∀ {path k}, Key.ofPath path = .ok k → ¬EndsInArguments path →
      trim path.toList = k.display.toList := by
    intro path k h hends
    obtain ⟨turbofish, hreads⟩ := Key.ofPath_eq_ok_iff.mp h
    obtain rfl : turbofish = [] := not_not.mp fun hne => hends (hreads.endsInArguments_iff.mpr hne)
    exact hreads.path_eq
  obtain ⟨turbofish, hreads⟩ := Key.ofPath_eq_ok_iff.mp h
  refine ⟨?_, ?_, ?_⟩
  · rcases hreads.turbofish with rfl | ⟨arguments, rfl⟩
    · exact .inl ⟨fun hends => hreads.endsInArguments_iff.mp hends rfl, hreads.path_eq⟩
    · exact .inr ⟨hreads.endsInArguments_iff.mpr (List.cons_ne_nil _ _), arguments, hreads.path_eq⟩
  · refine Key.ofPath_eq_ok_iff.mpr ⟨[], ?_⟩
    rw [(hreads.trimmed_display (trimmed_trim _)).trim_eq]
    exact hreads.display
  · intro other l hother hends hends'
    constructor
    · rintro rfl
      rw [hplain h hends, hplain hother hends']
    · intro heq
      have hsame : Key.ofTrimmed (trim path.toList) = .ok k := Key.ofTrimmed_eq_ok_iff.mpr ⟨_, hreads⟩
      obtain ⟨turbofish', hreads'⟩ := Key.ofPath_eq_ok_iff.mp hother
      have hsame' := Key.ofTrimmed_eq_ok_iff.mpr ⟨_, hreads'⟩
      rw [← heq, hsame] at hsame'
      exact Except.ok.inj hsame'

/-- Of a path with three colons and brackets that do not match, only the type arguments are lost. -/
theorem path_recovered_from_key_unbalanced :
    Key.ofPath " app:::b<c>>::é::<x::y\n" = .ok ⟨"app:::b<c>>", "é"⟩ ∧
    (∃ arguments, trim " app:::b<c>>::é::<x::y\n".toList =
      "app:::b<c>>::é".toList ++ ':' :: ':' :: '<' :: arguments) ∧
    Key.ofPath "app:::b<c>>::é" = .ok ⟨"app:::b<c>>", "é"⟩ ∧
    trim "app:::b<c>>::é".toList = trim "app:::b<c>>::é ".toList := by
  have h : Key.ofPath " app:::b<c>>::é::<x::y\n" = .ok ⟨"app:::b<c>>", "é"⟩ := by decide +kernel
  obtain ⟨hkept, hagain, -⟩ := path_recovered_from_key h
  obtain ⟨-, -, hsame⟩ := path_recovered_from_key hagain
  refine ⟨h, (hkept.resolve_left fun hends => hends.1 (by decide +kernel)).2, hagain, ?_⟩
  exact (hsame "app:::b<c>>::é " ⟨"app:::b<c>>", "é"⟩ (by decide +kernel) (by decide +kernel)
    (by decide +kernel)).mp rfl

end EntityQuery
