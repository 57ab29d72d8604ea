import EntityQuery.Proofs.Identifier
import EntityQuery.Proofs.Styles

/-!
Letters: what camel case keeps of a name. An identifier falls into words at its underscores and where
letters and digits meet, however the cuts overlap. Underscores are dropped, every other character stays
in its place, and no more than its case changes. The first word is written small; so a name begins with
a capital only if that word is empty, which is where an underscore begins the identifier.

```
identifier   words               name
line2_text   line | 2 | text     line2Text
HTTPServer   HTTP | Server       httpServer
_hidden_     ∅ | hidden | ∅      Hidden
```
-/

namespace EntityQuery.Text

/-! ### Names up to case -/

theorem map_toLower_lowercase {s : List Char} (hs : ∀ c ∈ s, IsPrintable c) :
    (lowercase s).map Char.toLower = s.map Char.toLower := by
  rw [lowercase_printable hs, map_toLower_toLower hs]

theorem map_toLower_capitalize {s : List Char} (hs : ∀ c ∈ s, IsPrintable c) :
    (capitalize s).map Char.toLower = s.map Char.toLower := by
  cases s with
  | nil => rfl
  | cons c rest =>
    obtain ⟨hc, hrest⟩ := List.forall_mem_cons.mp hs
    rw [capitalize_printable hs, List.map_cons, List.map_cons, map_toLower_toLower hrest,
      hc.cased.upper_lower]

/-- Words joined in camel case are the words one after the other, up to case. -/
theorem map_toLower_joinCamel {ws : List (List Char)}
    (hs : ∀ word ∈ ws, ∀ c ∈ word, IsPrintable c) :
    (joinCamel ws).map Char.toLower = ws.flatten.map Char.toLower := by
  cases ws with
  | nil => rfl
  | cons word others =>
    obtain ⟨hword, hothers⟩ := List.forall_mem_cons.mp hs
    rw [joinCamel, List.map_append, map_toLower_lowercase hword, List.map_flatMap, List.flatten_cons,
      List.map_append, List.map_flatten, ← List.flatMap_def]
    exact congrArg _ (List.flatMap_congr fun w hw => map_toLower_capitalize (hothers w hw))

/-! ### The first character -/

/-- Words with a capital each begin as the first of them that is not empty. -/
theorem head?_flatMap_capitalize : ∀ ws : List (List Char),
    (∀ word ∈ ws, ∀ c ∈ word, IsPrintable c) →
      (ws.flatMap capitalize).head? = ws.flatten.head?.map Char.toUpper
  | [], _ => rfl
  | [] :: ws, hs => head?_flatMap_capitalize ws (List.forall_mem_cons.mp hs).2
  | (c :: word) :: ws, hs => by
    rw [List.flatMap_cons, capitalize_printable (hs (c :: word) List.mem_cons_self)]
    rfl

/-! ### Identifiers -/

section

variable {s : List Char}

theorem isPrintable_of_isNameChar {c : Char} (hc : isNameChar c) : IsPrintable c := by
  rcases Bool.or_eq_true_iff.mp hc with halphanum | hline
  · exact isPrintable_of_isAlphanum halphanum
  · rw [of_decide_eq_true hline]
    decide

/-- The only delimiter that can stand in an identifier is the underscore. -/
theorem isDelimiter_of_isNameChar {c : Char} (hc : isNameChar c) : isDelimiter [c] = (c == '_') := by
  rcases Bool.or_eq_true_iff.mp hc with halphanum | hline
  · have hne : c ≠ '_' := by
      rintro rfl
      cases halphanum
    rw [isDelimiter_of_isAlphanum halphanum, beq_eq_false_iff_ne.mpr hne]
  · rw [of_decide_eq_true hline]
    decide

theorem printable_of_names (hs : ∀ c ∈ s, isNameChar c) : ∀ c ∈ s, IsPrintable c :=
  fun c hc => isPrintable_of_isNameChar (hs c hc)

/-- The words of an identifier are its letters and digits. -/
theorem words_clusters_flatten (hs : ∀ c ∈ s, isNameChar c) :
    (words (clusters s)).flatten = s.filter (· != '_') := by
  have hcut : ∀ c ∈ s, (!isDelimiter [c]) = (c != '_') := by
    intro c hc
    rw [isDelimiter_of_isNameChar (hs c hc), bne]
  rw [words_flatten, clusters_printable (printable_of_names hs),
    List.filter_map, ← List.flatMap_def, List.flatMap_singleton']
  exact List.filter_congr hcut

/-- The camel case form of an identifier has its letters and digits, up to case. -/
theorem map_toLower_camelCase (hs : ∀ c ∈ s, isNameChar c) :
    (camelCase s).map Char.toLower = (s.filter (· != '_')).map Char.toLower := by
  rw [camelCase, map_toLower_joinCamel (words_printable (printable_of_names hs)),
    words_clusters_flatten hs]

/-- So it consists of letters and digits itself. -/
theorem camelCase_isAlphanum (hs : ∀ c ∈ s, isNameChar c) : ∀ c ∈ camelCase s, c.isAlphanum := by
  intro c hc
  have hmem := List.mem_map_of_mem (f := Char.toLower) hc
  rw [map_toLower_camelCase hs] at hmem
  obtain ⟨d, hd, hlower⟩ := List.mem_map.mp hmem
  obtain ⟨hd, hline⟩ := List.mem_filter.mp hd
  have halphanum : d.isAlphanum :=
    (Bool.or_eq_true_iff.mp (hs d hd)).resolve_right (by simpa using hline)
  rwa [← isAlphanum_toLower, ← hlower, isAlphanum_toLower]

/-- It begins with a capital exactly if underscores begin the identifier and a letter follows. -/
theorem camelCase_head_isUpper_iff (hs : ∀ c ∈ s, isNameChar c) :
    (camelCase s).head?.any Char.isUpper ↔
      s.head? = some '_' ∧ (s.find? (· != '_')).any Char.isAlpha := by
  cases s with
  | nil => simp [camelCase, clusters, clustersAfter, words, joinCamel, lowercase, lowerAfter]
  | cons c rest =>
    obtain ⟨hc, hrest⟩ := List.forall_mem_cons.mp hs
    have hprintable := printable_of_names hs
    have hdelimiter := isDelimiter_of_isNameChar hc
    by_cases hline : c = '_'
    · -- the first word is empty, and the others begin as the letters and digits of the rest
      subst hline
      have hwords : words (clusters ('_' :: rest)) = [] :: words (clusters rest) := by
        rw [clusters_printable hprintable, clusters_printable (printable_of_names hrest),
          List.map_cons, words, if_pos (by decide)]
      have hothers := words_printable (printable_of_names hrest)
      rw [camelCase, hwords, joinCamel, lowercase, lowerAfter, List.nil_append,
        head?_flatMap_capitalize _ hothers, words_clusters_flatten hrest, List.head?_filter]
      cases hfind : rest.find? (· != '_') with
      | none => simp [hfind]
      | some d =>
        have hd := isPrintable_of_isNameChar (hrest d (List.mem_of_find?_eq_some hfind))
        simp [hfind, hd.cased.upper_isUpper]
    · -- the first word begins with the first character, and is written small
      have hletter : isDelimiter [c] = false := hdelimiter.trans (beq_eq_false_iff_ne.mpr hline)
      have hclusters : clusters (c :: rest) = [c] :: rest.map ([·]) := clusters_printable hprintable
      obtain ⟨more, others, hwords⟩ := words_head hletter (rest.map ([·]))
      rw [← hclusters] at hwords
      have hword : ∀ d ∈ [c] ++ more, IsPrintable d :=
        words_printable hprintable _ (hwords ▸ List.mem_cons_self)
      have hc := (isPrintable_of_isNameChar hc).cased
      rw [camelCase, hwords, joinCamel, lowercase_printable hword]
      simp [hline, hc.lower_isUpper]

end

end EntityQuery.Text

namespace EntityQuery.Field

open EntityQuery.Text

/-- What is left of an identifier behind a getter mark consists of the same kind of characters. -/
theorem stem_isNameChar {s : List Char} (hs : isAsciiIdentifier s) : ∀ c ∈ stem s, isNameChar c := by
  obtain ⟨mark, -, hmark⟩ := exists_mark_stem s
  intro c hc
  have hmem : c ∈ mark.toList ++ stem s := List.mem_append_right _ hc
  rw [← hmark] at hmem
  exact isNameChar_of_isAsciiIdentifier hs c hmem

/-- LETTERS: the field that an accessor method leads to has a name of ASCII letters and digits alone, and
up to case they are those of the method's stem: none is lost, added or moved. The name begins with a
capital exactly if underscores begin the stem and a letter follows them. -/
theorem name_keeps_letters {method : String} (h : isAsciiIdentifier method.toList) :
    (∀ c ∈ (nameOfMethod method).toList, c.isAlphanum) ∧
    (nameOfMethod method).toList.map Char.toLower =
      ((stem method.toList).filter (· != '_')).map Char.toLower ∧
    ((nameOfMethod method).toList.head?.any Char.isUpper ↔
      (stem method.toList).head? = some '_' ∧
        ((stem method.toList).find? (· != '_')).any Char.isAlpha) := by
  have hstem := stem_isNameChar h
  rw [nameOfMethod, String.toList_ofList]
  exact ⟨camelCase_isAlphanum hstem, map_toLower_camelCase hstem, camelCase_head_isUpper_iff hstem⟩

theorem name_keeps_letters_hidden :
    isAsciiIdentifier "get__line2_text_".toList ∧
    (∀ c ∈ (nameOfMethod "get__line2_text_").toList, c.isAlphanum) ∧
    (nameOfMethod "get__line2_text_").toList.map Char.toLower = "line2text".toList ∧
    (nameOfMethod "get__line2_text_").toList.head?.any Char.isUpper := by
  have hidentifier : isAsciiIdentifier "get__line2_text_".toList := by decide
  obtain ⟨hkind, hletters, hcapital⟩ := name_keeps_letters hidentifier
  exact ⟨hidentifier, hkind, hletters.trans (by decide), hcapital.mpr (by decide)⟩

end EntityQuery.Field
