import EntityQuery.Proofs.Casing

/-!
Spellings of one list of words. A list of words can be spelled with underscores or with capitals, with
a getter mark in front or without, and all of these lead to one field: a getter mark is dropped, and
what is left falls into the same words. The exception is a spelling without a mark of several words
the first of which is itself a mark; there that word is dropped.

```
words        methods                                          field
last, name   last_name  lastName  is_last_name  getLastName   lastName
get, size    is_get_size  getGetSize                          getSize
get, size    get_size  getSize                                size
```
-/

namespace EntityQuery.Field

open EntityQuery.Text

/-! ### Words and their spellings -/

/-- A word of a name: a small letter, and then at least one more or a digit. -/
structure NameWord where
  /-- The letter that is written as a capital where words are told apart by capitals. -/
  first : Char
  /-- The characters after it. -/
  rest : List Char
  first_small : first.isLower
  rest_ne_nil : rest ≠ []
  rest_plain : ∀ c ∈ rest, isPlain c

namespace NameWord

/-- The word as it is. -/
def text (w : NameWord) : List Char := w.first :: w.rest

/-- The word with a capital. -/
def capital (w : NameWord) : List Char := w.first.toUpper :: w.rest

/-- A word that is a getter mark. -/
def IsMark (w : NameWord) : Prop := ∃ mark ∈ ["get", "is"], w.text = mark.toList

instance (w : NameWord) : Decidable w.IsMark := inferInstanceAs (Decidable (∃ _ ∈ _, _))

end NameWord

/-- Words with underscores between them. -/
def snakeCase (ws : List NameWord) : List Char := ['_'].intercalate (ws.map NameWord.text)

/-- Words with a capital each. -/
def pascalCase (ws : List NameWord) : List Char := ws.flatMap NameWord.capital

/-- Words with a capital each, but for the first. -/
def lowerCamelCase : List NameWord → List Char
  | [] => []
  | w :: ws => w.text ++ pascalCase ws

/-- The accessor methods that are spelled with a getter mark. -/
def getterSpellings (ws : List NameWord) : List (List Char) :=
  ["get_", "is_"].map (·.toList ++ snakeCase ws) ++ ["get", "is"].map (·.toList ++ pascalCase ws)

/-- The accessor methods that are spelled without one. -/
def plainSpellings (ws : List NameWord) : List (List Char) := [snakeCase ws, lowerCamelCase ws]

/-- The field that words name. -/
def nameOfWords (ws : List NameWord) : String := String.ofList (camelCase (snakeCase ws))

/-! ### The words of a spelling -/

namespace NameWord

variable (w : NameWord)

theorem text_plain : ∀ c ∈ w.text, isPlain c :=
  List.forall_mem_cons.mpr ⟨by simp [isPlain, w.first_small], w.rest_plain⟩

theorem first_cased : Cased w.first := (isPrintable_of_isLower w.first_small).cased

theorem first_upper : w.first.toUpper.isUpper :=
  w.first_cased.upper_isUpper.trans (isAlpha_of_isLower w.first_small)

theorem text_printable : ∀ c ∈ w.text, IsPrintable c :=
  fun c hc => isPrintable_of_isAlphanum (isAlphanum_of_isPlain (w.text_plain c hc))

theorem capital_printable : ∀ c ∈ w.capital, IsPrintable c :=
  List.forall_mem_cons.mpr ⟨isPrintable_of_isUpper w.first_upper,
    fun c hc => w.text_printable c (List.mem_cons_of_mem _ hc)⟩

theorem lowercase_text : lowercase w.text = w.text := by
  rw [lowercase_printable w.text_printable, map_toLower_plain w.text_plain]

theorem capitalize_text : capitalize w.text = w.capital := by
  rw [text, capitalize_printable w.text_printable, map_toLower_plain w.rest_plain, capital]

/-- Every word ends with a small letter or a digit, with a capital as without. -/
theorem exists_last (c : Char) : ∃ d, (c :: w.rest).getLast? = some d ∧ isPlain d := by
  have hlast := List.getLast?_eq_some_getLast w.rest_ne_nil
  refine ⟨_, ?_, w.rest_plain _ (List.mem_of_getLast? hlast)⟩
  rw [List.getLast?_cons, hlast, Option.getD_some]

/-- A word falls into the same words with a capital as without. -/
theorem plainWords_capital : plainWords w.capital = plainWords w.text := by
  obtain ⟨d, more, hrest⟩ := List.exists_cons_of_ne_nil w.rest_ne_nil
  have hd : isPlain d := w.rest_plain d (by simp [hrest])
  have hsame : w.first.toUpper.toLower = w.first.toLower := w.first_cased.upper_lower
  have hfirst := isAlpha_of_isLower w.first_small
  have hcapital := isAlpha_of_isUpper w.first_upper
  rw [plainWords, plainWords, clusters_printable w.capital_printable,
    clusters_printable w.text_printable, capital, text, hrest]
  simp only [List.map_cons, words_letter hfirst hd, words_letter hcapital hd]
  split_ifs
  · simp [hsame]
  · cases words ([d] :: more.map ([·])) <;> simp [hsame]

end NameWord

theorem snakeCase_cons (w v : NameWord) (vs : List NameWord) :
    snakeCase (w :: v :: vs) = w.text ++ '_' :: snakeCase (v :: vs) := by
  simp [snakeCase, List.intercalate_cons_cons]

theorem snakeCase_printable : ∀ ws : List NameWord, ∀ c ∈ snakeCase ws, IsPrintable c
  | [] => nofun
  | [w] => by simpa [snakeCase] using w.text_printable
  | w :: v :: vs => by
    rw [snakeCase_cons]
    exact List.forall_mem_append.mpr ⟨w.text_printable,
      List.forall_mem_cons.mpr ⟨by decide, snakeCase_printable (v :: vs)⟩⟩

theorem pascalCase_printable (ws : List NameWord) : ∀ c ∈ pascalCase ws, IsPrintable c := by
  intro c hc
  obtain ⟨w, -, hc⟩ := List.mem_flatMap.mp hc
  exact w.capital_printable c hc

/-- The words of a name with underscores are those of its words. -/
theorem plainWords_snakeCase : ∀ {ws : List NameWord}, ws ≠ [] →
    plainWords (snakeCase ws) = ws.flatMap fun w => plainWords w.text
  | [], h => absurd rfl h
  | [w], _ => by simp [snakeCase]
  | w :: v :: vs, _ => by
    rw [snakeCase_cons, plainWords_append_delimiter w.text_printable (snakeCase_printable _),
      plainWords_snakeCase (List.cons_ne_nil v vs)]
    rfl

/-- So are those of words with capitals, behind a text that ends as words do. -/
theorem plainWords_append_pascalCase : ∀ (ws : List NameWord) {xs : List Char} {c : Char},
    (∀ x ∈ xs, IsPrintable x) → xs.getLast? = some c → isPlain c →
      plainWords (xs ++ pascalCase ws) = plainWords xs ++ ws.flatMap fun w => plainWords w.text
  | [], xs, _, _, _, _ => by simp [pascalCase]
  | w :: ws, xs, c, hxs, hlast, hc => by
    have hrest : ∀ y ∈ w.capital ++ pascalCase ws, IsPrintable y :=
      List.forall_mem_append.mpr ⟨w.capital_printable, pascalCase_printable ws⟩
    obtain ⟨d, hlast', hd⟩ := w.exists_last w.first.toUpper
    -- a word with its capital ends as the text before it did, so the others are cut off there again
    have ih := plainWords_append_pascalCase ws w.capital_printable hlast' hd
    calc plainWords (xs ++ pascalCase (w :: ws))
        = plainWords xs ++ plainWords (w.capital ++ pascalCase ws) :=
          plainWords_append_capital hxs hrest hlast hc w.first_upper
      _ = plainWords xs ++ (w :: ws).flatMap fun w => plainWords w.text := by
          rw [ih, w.plainWords_capital, List.flatMap_cons]

theorem plainWords_pascalCase {ws : List NameWord} (h : ws ≠ []) :
    plainWords (pascalCase ws) = ws.flatMap fun w => plainWords w.text := by
  obtain ⟨w, ws, rfl⟩ := List.exists_cons_of_ne_nil h
  obtain ⟨d, hlast, hd⟩ := w.exists_last w.first.toUpper
  rw [pascalCase, List.flatMap_cons, List.flatMap_cons, ← w.plainWords_capital]
  exact plainWords_append_pascalCase ws w.capital_printable hlast hd

theorem plainWords_lowerCamelCase {ws : List NameWord} (h : ws ≠ []) :
    plainWords (lowerCamelCase ws) = ws.flatMap fun w => plainWords w.text := by
  obtain ⟨w, ws, rfl⟩ := List.exists_cons_of_ne_nil h
  obtain ⟨d, hlast, hd⟩ := w.exists_last w.first
  exact plainWords_append_pascalCase ws w.text_printable hlast hd

/-- A text that falls into the words of some words leads to the field that they name. -/
theorem nameOfWords_eq {ws : List NameWord} (hws : ws ≠ []) {s : List Char}
    (hs : ∀ c ∈ s, IsPrintable c) (hwords : plainWords s = ws.flatMap fun w => plainWords w.text) :
    String.ofList (camelCase s) = nameOfWords ws := by
  rw [nameOfWords, camelCase_eq hs, camelCase_eq (snakeCase_printable ws), hwords,
    plainWords_snakeCase hws]

/-! ### Getter marks -/

section

variable {marks : List String} {p : List Char → Bool} {s rest : List Char}

/-- What is left behind the first mark of some, no two of which a text can begin with. -/
theorem afterMark_eq_some_iff
    (hapart : marks.Pairwise fun m n => ∀ r r', m.toList ++ r ≠ n.toList ++ r') :
    (marks.findSome? fun mark => (mark.toList.isPrefixOf? s).filter p) = some rest ↔
      p rest ∧ ∃ mark ∈ marks, s = mark.toList ++ rest := by
  constructor
  · intro h
    obtain ⟨mark, hmark, h⟩ := List.exists_of_findSome?_eq_some h
    obtain ⟨hbefore, hp⟩ := Option.filter_eq_some_iff.mp h
    exact ⟨hp, mark, hmark, (List.isPrefixOf?_eq_some_iff_append_eq.mp hbefore).symm⟩
  · rintro ⟨hp, mark, hmark, rfl⟩
    obtain ⟨before, after, rfl⟩ := List.append_of_mem hmark
    rw [List.pairwise_append] at hapart
    refine List.findSome?_eq_some_iff.mpr ⟨before, mark, after, rfl, ?_, fun m hm => ?_⟩
    · rw [List.isPrefixOf?_eq_some_iff_append_eq.mpr rfl, Option.filter_some, if_pos hp]
    · have hnot : m.toList.isPrefixOf? (mark.toList ++ rest) = none := by
        rw [Option.eq_none_iff_forall_ne_some]
        intro r h
        exact hapart.2.2 m hm mark List.mem_cons_self r rest
          (List.isPrefixOf?_eq_some_iff_append_eq.mp h)
      rw [hnot, Option.filter_none]

theorem afterSnakeMark?_eq_some_iff :
    afterSnakeMark? s = some rest ↔ rest ≠ [] ∧ ∃ mark ∈ ["get_", "is_"], s = mark.toList ++ rest := by
  rw [afterSnakeMark?, afterMark_eq_some_iff (by simp)]
  simp

theorem afterCamelMark?_eq_some_iff :
    afterCamelMark? s = some rest ↔
      rest.head?.any Char.isUpper ∧ ∃ mark ∈ ["get", "is"], s = mark.toList ++ rest := by
  rw [afterCamelMark?, afterMark_eq_some_iff (by simp)]

/-- A mark with an underscore is dropped, whatever the rest begins with. -/
theorem stem_snake {mark : String} (hmark : mark ∈ ["get_", "is_"]) (hne : rest ≠ []) :
    stem (mark.toList ++ rest) = rest := by
  rw [stem, afterSnakeMark?_eq_some_iff.mpr ⟨hne, mark, hmark, rfl⟩, Option.getD_some]

/-- A mark in front of a capital is dropped. -/
theorem stem_camel {mark : String} (hmark : mark ∈ ["get", "is"])
    (hcapital : rest.head?.any Char.isUpper) : stem (mark.toList ++ rest) = rest := by
  have hnone : afterSnakeMark? (mark.toList ++ rest) = none := by
    rw [Option.eq_none_iff_forall_ne_some]
    intro r h
    obtain ⟨-, mark', hmark', h⟩ := afterSnakeMark?_eq_some_iff.mp h
    cases rest with
    | nil => cases hcapital
    | cons c tail =>
      have hunderscore : c ≠ '_' := by
        rintro rfl
        cases hcapital
      -- the underscore of the one mark would be the capital behind the other
      rcases List.mem_pair.mp hmark with rfl | rfl <;>
        rcases List.mem_pair.mp hmark' with rfl | rfl <;> simp [hunderscore] at h
  rw [stem, hnone, Option.getD_none,
    afterCamelMark?_eq_some_iff.mpr ⟨hcapital, mark, hmark, rfl⟩, Option.getD_some]

/-- A method's name is its stem, or a mark and then its stem. -/
theorem exists_mark_stem (s : List Char) :
    ∃ mark ∈ ["", "get_", "is_", "get", "is"], s = mark.toList ++ stem s := by
  unfold stem
  cases hsnake : afterSnakeMark? s with
  | some rest =>
    obtain ⟨-, mark, hmark, rfl⟩ := afterSnakeMark?_eq_some_iff.mp hsnake
    exact ⟨mark, by rcases List.mem_pair.mp hmark with rfl | rfl <;> decide, rfl⟩
  | none =>
    cases hcamel : afterCamelMark? s with
    | some rest =>
      obtain ⟨-, mark, hmark, rfl⟩ := afterCamelMark?_eq_some_iff.mp hcamel
      exact ⟨mark, by rcases List.mem_pair.mp hmark with rfl | rfl <;> decide, rfl⟩
    | none => exact ⟨"", by decide, rfl⟩

/-- A text is its own stem if it goes on as a word behind every mark. -/
theorem stem_eq_self (h : ∀ mark ∈ ["get", "is"], ∀ c tail, isPlain c = false →
    s ≠ mark.toList ++ c :: tail) : stem s = s := by
  have hsnake : afterSnakeMark? s = none := by
    rw [Option.eq_none_iff_forall_ne_some]
    intro rest hrest
    obtain ⟨-, mark, hmark, rfl⟩ := afterSnakeMark?_eq_some_iff.mp hrest
    rcases List.mem_pair.mp hmark with rfl | rfl
    · exact h "get" (by decide) '_' rest (by decide) rfl
    · exact h "is" (by decide) '_' rest (by decide) rfl
  have hcamel : afterCamelMark? s = none := by
    rw [Option.eq_none_iff_forall_ne_some]
    intro rest hrest
    obtain ⟨hcapital, mark, hmark, rfl⟩ := afterCamelMark?_eq_some_iff.mp hrest
    cases rest with
    | nil => cases hcapital
    | cons c tail =>
      exact h mark hmark c tail (not_isPlain_of_isUpper hcapital) rfl
  rw [stem, hsnake, hcamel, Option.getD_none, Option.getD_none]

end

/-- A word, and behind it what no word goes on with, is its own stem unless the word is a mark. -/
theorem NameWord.stem_append (w : NameWord) {tail : List Char}
    (htail : tail.head?.any isPlain = false) (h : tail = [] ∨ ¬w.IsMark) :
    stem (w.text ++ tail) = w.text ++ tail := by
  refine stem_eq_self fun mark hmark c more hc hs => ?_
  -- the word and the mark both end at the first character that is not plain
  have hplain : ∀ x ∈ mark.toList, isPlain x := by
    rcases List.mem_pair.mp hmark with rfl | rfl <;> exact List.all_eq_true.mp (by decide)
  have hstop : tail.takeWhile isPlain = [] := by
    cases tail with
    | nil => rfl
    | cons d tail => exact List.takeWhile_cons_of_neg (ne_true_of_eq_false htail)
  have hword : w.text = mark.toList := by
    have hfront := congrArg (List.takeWhile isPlain) hs
    rwa [List.takeWhile_append_of_pos w.text_plain, hstop, List.append_nil,
      List.takeWhile_append_of_pos hplain, List.takeWhile_cons_of_neg (ne_true_of_eq_false hc),
      List.append_nil] at hfront
  rcases h with rfl | hmarked
  · rw [hword, List.append_right_inj] at hs
    cases hs
  · exact hmarked ⟨mark, hmark, hword⟩

/-! ### One field for all spellings -/

theorem nameOfMethod_ofList (s : List Char) :
    nameOfMethod (String.ofList s) = String.ofList (camelCase (stem s)) := by
  rw [nameOfMethod, String.toList_ofList]

theorem snakeCase_ne_nil {ws : List NameWord} (h : ws ≠ []) : snakeCase ws ≠ [] := by
  cases ws with
  | nil => exact absurd rfl h
  | cons w ws => cases ws <;> simp [snakeCase, NameWord.text, List.intercalate_cons_cons]

theorem pascalCase_head {ws : List NameWord} (h : ws ≠ []) :
    (pascalCase ws).head?.any Char.isUpper := by
  cases ws with
  | nil => exact absurd rfl h
  | cons w ws => exact w.first_upper

theorem lowerCamelCase_printable : ∀ ws : List NameWord, ∀ c ∈ lowerCamelCase ws, IsPrintable c
  | [] => nofun
  | w :: ws => List.forall_mem_append.mpr ⟨w.text_printable, pascalCase_printable ws⟩

theorem nameOfWords_pascalCase {ws : List NameWord} (h : ws ≠ []) :
    String.ofList (camelCase (pascalCase ws)) = nameOfWords ws :=
  nameOfWords_eq h (pascalCase_printable ws) (plainWords_pascalCase h)

theorem nameOfWords_lowerCamelCase {ws : List NameWord} (h : ws ≠ []) :
    String.ofList (camelCase (lowerCamelCase ws)) = nameOfWords ws :=
  nameOfWords_eq h (lowerCamelCase_printable ws) (plainWords_lowerCamelCase h)

theorem getterSpellings_name {ws : List NameWord} (h : ws ≠ []) :
    ∀ s ∈ getterSpellings ws, nameOfMethod (String.ofList s) = nameOfWords ws := by
  have hsnake : ∀ mark ∈ ["get_", "is_"],
      nameOfMethod (String.ofList (mark.toList ++ snakeCase ws)) = nameOfWords ws := by
    intro mark hmark
    rw [nameOfMethod_ofList, stem_snake hmark (snakeCase_ne_nil h), nameOfWords]
  have hcamel : ∀ mark ∈ ["get", "is"],
      nameOfMethod (String.ofList (mark.toList ++ pascalCase ws)) = nameOfWords ws := by
    intro mark hmark
    rw [nameOfMethod_ofList, stem_camel hmark (pascalCase_head h), nameOfWords_pascalCase h]
  exact List.forall_mem_append.mpr ⟨List.forall_mem_map.mpr hsnake, List.forall_mem_map.mpr hcamel⟩

section

variable {w : NameWord} {ws : List NameWord}

theorem stem_snakeCase (h : ws = [] ∨ ¬w.IsMark) :
    stem (snakeCase (w :: ws)) = snakeCase (w :: ws) := by
  cases ws with
  | nil => simpa [snakeCase] using w.stem_append rfl (.inl rfl)
  | cons v vs =>
    rw [snakeCase_cons]
    exact w.stem_append rfl (.inr (h.resolve_left (List.cons_ne_nil v vs)))

theorem stem_lowerCamelCase (h : ws = [] ∨ ¬w.IsMark) :
    stem (lowerCamelCase (w :: ws)) = lowerCamelCase (w :: ws) := by
  refine w.stem_append ?_ (h.imp_left fun hws => by rw [hws]; rfl)
  cases ws with
  | nil => rfl
  | cons v vs => exact not_isPlain_of_isUpper v.first_upper

/-- The first of several words is dropped where it is a mark. -/
theorem stem_snakeCase_mark (h : ws ≠ []) (hmark : w.IsMark) :
    stem (snakeCase (w :: ws)) = snakeCase ws := by
  obtain ⟨v, vs, rfl⟩ := List.exists_cons_of_ne_nil h
  obtain ⟨mark, hmark, hw⟩ := hmark
  rw [snakeCase_cons, hw]
  have hget : "get_" ∈ ["get_", "is_"] := by decide
  have his : "is_" ∈ ["get_", "is_"] := by decide
  rcases List.mem_pair.mp hmark with rfl | rfl
  · exact stem_snake hget (snakeCase_ne_nil h)
  · exact stem_snake his (snakeCase_ne_nil h)

theorem stem_lowerCamelCase_mark (h : ws ≠ []) (hmark : w.IsMark) :
    stem (lowerCamelCase (w :: ws)) = pascalCase ws := by
  obtain ⟨mark, hmark, hw⟩ := hmark
  rw [lowerCamelCase, hw]
  exact stem_camel hmark (pascalCase_head h)

end

theorem plainSpellings_name {w : NameWord} {ws : List NameWord} (h : ws = [] ∨ ¬w.IsMark) :
    ∀ s ∈ plainSpellings (w :: ws), nameOfMethod (String.ofList s) = nameOfWords (w :: ws) := by
  refine List.forall_mem_cons.mpr ⟨?_, List.forall_mem_singleton.mpr ?_⟩
  · rw [nameOfMethod_ofList, stem_snakeCase h, nameOfWords]
  · rw [nameOfMethod_ofList, stem_lowerCamelCase h,
      nameOfWords_lowerCamelCase (List.cons_ne_nil w ws)]

theorem plainSpellings_name_mark {w : NameWord} {ws : List NameWord} (h : ws ≠ [])
    (hmark : w.IsMark) :
    ∀ s ∈ plainSpellings (w :: ws), nameOfMethod (String.ofList s) = nameOfWords ws := by
  refine List.forall_mem_cons.mpr ⟨?_, List.forall_mem_singleton.mpr ?_⟩
  · rw [nameOfMethod_ofList, stem_snakeCase_mark h hmark, nameOfWords]
  · rw [nameOfMethod_ofList, stem_lowerCamelCase_mark h hmark, nameOfWords_pascalCase h]

/-- Words of letters name the field that is spelled with capitals but for the first word. -/
theorem nameOfWords_letters {w : NameWord} {ws : List NameWord}
    (h : ∀ v ∈ w :: ws, ∀ c ∈ v.text, c.isLower) :
    nameOfWords (w :: ws) = String.ofList (lowerCamelCase (w :: ws)) := by
  have hwords : plainWords (snakeCase (w :: ws)) = (w :: ws).map NameWord.text := by
    rw [plainWords_snakeCase (List.cons_ne_nil w ws), List.map_eq_flatMap]
    exact List.flatMap_congr fun v hv => plainWords_small (h v hv)
  have hothers : (ws.map NameWord.text).flatMap capitalize = pascalCase ws := by
    rw [List.flatMap_map]
    exact List.flatMap_congr fun v _ => v.capitalize_text
  rw [nameOfWords, camelCase_eq (snakeCase_printable _), hwords, List.map_cons, joinCamel,
    w.lowercase_text, hothers, lowerCamelCase]

/-- SPELLINGS: every spelling of some words with a getter mark leads to one field. A spelling without a
mark leads there too, unless there are several words and the first is a mark; then it leads to the
field of the others. The name of the field is the spelling with capitals but for the first word if the
words consist of letters. No method loses more than one mark, whatever stands behind it. -/
theorem spellings_name_one_field (w : NameWord) (ws : List NameWord) :
    (∀ s ∈ getterSpellings (w :: ws), nameOfMethod (String.ofList s) = nameOfWords (w :: ws)) ∧
    (∀ s ∈ plainSpellings (w :: ws),
      (ws = [] ∨ ¬w.IsMark → nameOfMethod (String.ofList s) = nameOfWords (w :: ws)) ∧
      (ws ≠ [] → w.IsMark → nameOfMethod (String.ofList s) = nameOfWords ws)) ∧
    ((∀ v ∈ w :: ws, ∀ c ∈ v.text, c.isLower) →
      nameOfWords (w :: ws) = String.ofList (lowerCamelCase (w :: ws))) ∧
    (∀ method : String, ∃ mark ∈ ["", "get_", "is_", "get", "is"], ∃ rest,
      method.toList = mark.toList ++ rest ∧ nameOfMethod method = String.ofList (camelCase rest)) ∧
    (∀ rest : List Char, rest ≠ [] → ∀ mark ∈ ["get_", "is_"],
      nameOfMethod (String.ofList (mark.toList ++ rest)) = String.ofList (camelCase rest)) ∧
    ∀ rest : List Char, rest.head?.any Char.isUpper → ∀ mark ∈ ["get", "is"],
      nameOfMethod (String.ofList (mark.toList ++ rest)) = String.ofList (camelCase rest) := by
  refine ⟨getterSpellings_name (List.cons_ne_nil w ws), fun s hs => ⟨fun h => ?_, fun h hmark => ?_⟩,
    nameOfWords_letters, fun method => ?_, fun rest hne mark hmark => ?_,
    fun rest hcapital mark hmark => ?_⟩
  · exact plainSpellings_name h s hs
  · exact plainSpellings_name_mark h hmark s hs
  · obtain ⟨mark, hmark, hmethod⟩ := exists_mark_stem method.toList
    exact ⟨mark, hmark, stem method.toList, hmethod, rfl⟩
  · rw [nameOfMethod_ofList, stem_snake hmark hne]
  · rw [nameOfMethod_ofList, stem_camel hmark hcapital]

/-- The words of two methods, `last_name` and `get_name`. -/
def lastWord : NameWord := ⟨'l', "ast".toList, by decide, by decide, List.all_eq_true.mp (by decide)⟩

@[inherit_doc lastWord]
def nameWord : NameWord := ⟨'n', "ame".toList, by decide, by decide, List.all_eq_true.mp (by decide)⟩

@[inherit_doc lastWord]
def getWord : NameWord := ⟨'g', "et".toList, by decide, by decide, List.all_eq_true.mp (by decide)⟩

theorem spellings_name_one_field_last_name :
    nameOfMethod "isLastName" = nameOfWords [lastWord, nameWord] ∧
    nameOfMethod "last_name" = nameOfWords [lastWord, nameWord] ∧
    nameOfWords [lastWord, nameWord] = "lastName" ∧
    nameOfMethod "getName" = nameOfWords [nameWord] ∧
    nameOfMethod "get_get_name" = nameOfWords [getWord, nameWord] ∧
    nameOfMethod "get_is_last" = String.ofList (camelCase "is_last".toList) ∧
    nameOfMethod "isGetLast" = String.ofList (camelCase "GetLast".toList) := by
  obtain ⟨hgetters, hplain, hletters, -, hsnake, hcamel⟩ :=
    spellings_name_one_field lastWord [nameWord]
  obtain ⟨hmarked, hunmarked, -⟩ := spellings_name_one_field getWord [nameWord]
  refine ⟨hgetters "isLastName".toList (by decide), ?_, hletters ?_, ?_,
    hmarked "get_get_name".toList (by decide), ?_, ?_⟩
  · exact (hplain "last_name".toList (by decide)).1 (by decide)
  · simp [NameWord.text, lastWord, nameWord]
  · exact (hunmarked "getName".toList (by decide)).2 (by decide) (by decide)
  · exact hsnake "is_last".toList (by decide) "get_" (by decide)
  · exact hcamel "GetLast".toList (by decide) "is" (by decide)

end EntityQuery.Field
