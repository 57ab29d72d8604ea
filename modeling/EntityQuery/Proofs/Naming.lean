import EntityQuery.Field.Name
import Mathlib.Data.List.Basic

/-!
Names of one identifier. A declared field and the accessor method of the same identifier have names
of their own: both drop a getter mark with an underscore, and only the method's drops one that a
capital ends. Where the marks are read alike the names are the same; where they are not, the field's
name is longer by exactly the mark that it keeps, whatever camel case makes of the rest.

```
identifier   get_name   is_      name   getName   isHTTPServer
field        name       is       name   getName   isHttpServer
method       name       is       name   name      httpServer
```
-/

namespace EntityQuery.Text

/-! ### Characters that ASCII prints -/

/-- The characters that ASCII prints. -/
def printable : CharClass := [(0x20, 0x7E)]

theorem printable_has_iff {c : Char} : printable.has c ↔ 0x20 ≤ c.toNat ∧ c.toNat ≤ 0x7E := by
  simp [printable, CharClass.has]

/-- A character that ASCII prints. -/
abbrev IsPrintable (c : Char) : Prop := printable.has c

namespace IsPrintable

variable {c d : Char}

theorem not_has (hc : IsPrintable c) (others : CharClass) (h : printable.apart others) :
    others.has c = false :=
  CharClass.has_eq_false h hc

theorem lt (hc : IsPrintable c) : c.toNat < 0x80 := by
  have hlast := (printable_has_iff.mp hc).2
  omega

theorem ne (hc : IsPrintable c) (hd : ¬IsPrintable d) : c ≠ d := fun h => hd (h ▸ hc)

theorem isMark_eq_false (hc : IsPrintable c) : isMark c = false := by
  rw [isMark, hc.not_has clusterExtend (by decide +kernel),
    hc.not_has clusterSpacing (by decide +kernel)]
  simpa using hc.ne (by decide)

/-- It ties itself to nothing, whatever the cluster before it asks for. -/
theorem push_eq (hc : IsPrintable c) (e : ClusterEnd) : e.push c = .ordinary := by
  have hreturn : c ≠ '\r' := hc.ne (by decide)
  have hjoiner : c ≠ joiner := hc.ne (by decide)
  have hextend : clusterExtend.has c = false := hc.not_has _ (by decide +kernel)
  have hlinker : conjunctLinker.has c = false := hc.not_has _ (by decide +kernel)
  unfold ClusterEnd.push isOpenSyllable isClosedSyllable
  rw [hc.not_has clusterControl (by decide +kernel),
    hc.not_has clusterPrepend (by decide +kernel),
    hc.not_has hangulLeading (by decide +kernel),
    hc.not_has hangulVowel (by decide +kernel),
    hc.not_has hangulTrailing (by decide +kernel),
    hc.not_has syllableBlocks (by decide +kernel),
    hc.not_has regionalIndicators (by decide +kernel),
    hc.not_has conjunctConsonant (by decide +kernel),
    hc.not_has clusterPictograph (by decide +kernel)]
  cases e <;> simp [ClusterEnd.pushPlain, keepsConjunct, hreturn, hjoiner, hextend, hlinker]

theorem admits_eq_false (hc : IsPrintable c) : ClusterEnd.ordinary.admits c = false := by
  simp [ClusterEnd.admits, hc.isMark_eq_false, ClusterEnd.expects]

/-- The clusters from it on do not depend on what stands before it. -/
theorem clustersAfter_eq (hc : IsPrintable c) (e : ClusterEnd) (s : List Char) :
    clustersAfter e (c :: s) = clusters (c :: s) := by
  rw [clusters, clustersAfter, clustersAfter, hc.push_eq, hc.push_eq]

end IsPrintable

/-- The first cluster of a text begins with the first character of the text. -/
theorem clusters_head (c : Char) (s : List Char) :
    ∃ marks others, clusters (c :: s) = (c :: marks) :: others := by
  rw [clusters, clustersAfter]
  split
  · exact ⟨[], [], rfl⟩
  · split
    · exact ⟨_, _, rfl⟩
    · exact ⟨_, _, rfl⟩

/-- A text is cut between two characters that ASCII prints. -/
theorem clusters_cons {c d : Char} (hc : IsPrintable c) (hd : IsPrintable d) (s : List Char) :
    clusters (c :: d :: s) = [c] :: clusters (d :: s) := by
  obtain ⟨marks, others, h⟩ := clusters_head d s
  rw [clusters, clustersAfter, hc.push_eq, hd.clustersAfter_eq, h]
  simp [hd.admits_eq_false]

/-- What ASCII prints in front of such a character falls into single characters. -/
theorem clusters_append : ∀ front : List Char, (∀ m ∈ front, IsPrintable m) → ∀ {c : Char},
    IsPrintable c → ∀ s, clusters (front ++ c :: s) = front.map ([·]) ++ clusters (c :: s)
  | [], _, _, _, _ => rfl
  | [m], hfront, _, hc, s => clusters_cons (hfront m (List.mem_singleton_self m)) hc s
  | m :: n :: front, hfront, _, hc, s => by
    have ih := clusters_append (n :: front)
      (fun x hx => hfront x (List.mem_cons_of_mem _ hx)) hc s
    rw [List.cons_append, List.cons_append, clusters_cons (hfront m (by simp))
      (hfront n (by simp)), ← List.cons_append, ih]
    rfl

/-! ### Small letters in front of a text -/

theorem isPrintable_of_isLower {c : Char} (hc : c.isLower) : IsPrintable c := by
  have h := isLower_range hc
  exact printable_has_iff.mpr ⟨by omega, by omega⟩

theorem isPrintable_of_isUpper {c : Char} (hc : c.isUpper) : IsPrintable c := by
  have h := isUpper_range hc
  exact printable_has_iff.mpr ⟨by omega, by omega⟩

/-- A small letter is none of the clusters that end a word by themselves. -/
theorem small_letter {c : Char} (hc : c.isLower) :
    isDelimiter [c] = false ∧ isCapital [c] = false ∧ isDigits [c] = false := by
  have h := isLower_range hc
  have hletters : ∀ n ∈ List.range' 97 26, isDelimiter [Char.ofNat n] = false ∧
      isCapital [Char.ofNat n] = false ∧ isDigits [Char.ofNat n] = false := by decide
  rw [← Char.ofNat_toNat c]
  exact hletters c.toNat (by rw [List.mem_range'_1]; omega)

/-- No word ends between two small letters. -/
theorem endsWord_small {m n : Char} (hm : m.isLower) (hn : n.isLower) (rest : List (List Char)) :
    endsWord [m] ([n] :: rest) = false := by
  obtain ⟨-, hcapital, hdigits⟩ := small_letter hm
  obtain ⟨-, hcapital', hdigits'⟩ := small_letter hn
  simp [endsWord, hcapital, hdigits, hcapital', hdigits']

/-- The first word begins with the first cluster, unless that is a delimiter. -/
theorem words_head {c : List Char} (hc : isDelimiter c = false) (rest : List (List Char)) :
    ∃ more others, words (c :: rest) = (c ++ more) :: others := by
  rw [words, if_neg (ne_true_of_eq_false hc)]
  split
  · exact ⟨[], _, by rw [List.append_nil]⟩
  · split
    · exact ⟨[], [], by rw [List.append_nil]⟩
    · exact ⟨_, _, rfl⟩

/-- Small letters in front of clusters are a word of their own, or stand in front of the first. -/
theorem words_letters : ∀ mark : List Char, mark ≠ [] → (∀ m ∈ mark, m.isLower) →
    ∀ {rest : List (List Char)} {word : List Char} {others : List (List Char)},
      words rest = word :: others → words (mark.map ([·]) ++ rest) = mark :: word :: others ∨
        words (mark.map ([·]) ++ rest) = (mark ++ word) :: others
  | [], hne, _, _, _, _, _ => absurd rfl hne
  | [m], _, hm, rest, word, others, hrest => by
    obtain ⟨hdelimiter, -⟩ := small_letter (hm m (List.mem_singleton_self m))
    rw [List.map_cons, List.map_nil, List.singleton_append, words,
      if_neg (ne_true_of_eq_false hdelimiter), hrest]
    cases endsWord [m] rest with
    | true => exact .inl rfl
    | false => exact .inr rfl
  | m :: n :: mark, _, hm, rest, word, others, hrest => by
    obtain ⟨hdelimiter, -⟩ := small_letter (hm m (by simp))
    have hgoes : endsWord [m] ((n :: mark).map ([·]) ++ rest) = false :=
      endsWord_small (hm m (by simp)) (hm n (by simp)) _
    have ih := words_letters (n :: mark) (List.cons_ne_nil _ _)
      (fun x hx => hm x (List.mem_cons_of_mem _ hx)) hrest
    rw [List.map_cons, List.cons_append, words, if_neg (ne_true_of_eq_false hdelimiter),
      if_neg (ne_true_of_eq_false hgoes)]
    rcases ih with ih | ih <;> rw [ih]
    · exact .inl rfl
    · exact .inr rfl

/-! ### Lengths -/

/-- What stands before a text decides the form of a sigma, and no length. -/
theorem length_lowerAfter : ∀ (s before before' : List Char),
    (lowerAfter before s).length = (lowerAfter before' s).length
  | [], _, _ => rfl
  | c :: rest, before, before' => by
    rw [lowerAfter, lowerAfter, List.length_append, List.length_append,
      length_lowerAfter rest (c :: before) (c :: before')]
    by_cases hc : c = 'Σ'
    · rw [if_pos hc, if_pos hc]
      split <;> split <;> rfl
    · rw [if_neg hc, if_neg hc]

theorem length_lowercase_cons {c : Char} (hc : IsPrintable c) (s : List Char) :
    (lowercase (c :: s)).length = (lowercase s).length + 1 := by
  have hsigma : c ≠ 'Σ' := hc.ne (by decide)
  rw [lowercase, lowerAfter, if_neg hsigma, lowerChar, if_pos hc.lt,
    List.length_append, length_lowerAfter s [c] [], lowercase, Nat.add_comm]
  rfl

theorem length_capitalize_cons {c : Char} (hc : IsPrintable c) (s : List Char) :
    (capitalize (c :: s)).length = (lowercase s).length + 1 := by
  rw [capitalize, upperChar, if_pos hc.lt, List.length_append, Nat.add_comm]
  rfl

theorem length_lowercase_letters {s : List Char} : ∀ {mark : List Char},
    (∀ m ∈ mark, m.isLower) → (lowercase (mark ++ s)).length = (lowercase s).length + mark.length
  | [], _ => rfl
  | m :: mark, hm => by
    rw [List.cons_append, length_lowercase_cons (isPrintable_of_isLower (hm m (by simp))),
      length_lowercase_letters fun x hx => hm x (List.mem_cons_of_mem _ hx), List.length_cons,
      Nat.add_assoc]

/-- Small letters before a capital make a camel case form longer by themselves. -/
theorem length_camelCase {mark : List Char} (hne : mark ≠ []) (hmark : ∀ m ∈ mark, m.isLower)
    {c : Char} (hc : c.isUpper) (rest : List Char) :
    (camelCase (mark ++ c :: rest)).length = (camelCase (c :: rest)).length + mark.length := by
  have hprintable := isPrintable_of_isUpper hc
  have hclusters := clusters_append mark (fun m hm => isPrintable_of_isLower (hmark m hm))
    hprintable rest
  obtain ⟨marks, more, hfirst⟩ := clusters_head c rest
  have hdelimiter : isDelimiter (c :: marks) = false := by
    have hletter : c ≠ '_' ∧ c ≠ '-' ∧ c ≠ ' ' := by
      refine ⟨?_, ?_, ?_⟩ <;> rintro rfl <;> cases hc
    simp [isDelimiter, hletter]
  obtain ⟨tail, others, hwords⟩ := words_head hdelimiter more
  rw [← hfirst, List.cons_append] at hwords
  -- the mark is a word of its own or opens the first one, which is written with as many letters
  rw [camelCase, camelCase, hclusters, hwords, joinCamel]
  rcases words_letters mark hne hmark hwords with h | h
  · have hm := length_lowercase_letters (s := []) hmark
    rw [List.append_nil] at hm
    rw [h, joinCamel, List.flatMap_cons, List.length_append, List.length_append, List.length_append,
      hm, length_capitalize_cons hprintable, length_lowercase_cons hprintable]
    simp only [lowercase, lowerAfter, List.length_nil]
    omega
  · rw [h, joinCamel, List.length_append, List.length_append, length_lowercase_letters hmark]
    omega

end EntityQuery.Text

namespace EntityQuery.Field

open EntityQuery.Text

/-- A mark that a capital ends is in front of what follows it, and made of small letters. -/
theorem afterCamelMark?_eq_some {s rest : List Char} (h : afterCamelMark? s = some rest) :
    ∃ mark c tail, mark ≠ [] ∧ (∀ m ∈ mark, m.isLower) ∧ c.isUpper ∧ rest = c :: tail ∧
      s = mark ++ rest := by
  obtain ⟨mark, hmark, h⟩ := List.exists_of_findSome?_eq_some h
  obtain ⟨hbefore, hcapital⟩ := Option.filter_eq_some_iff.mp h
  rw [List.isPrefixOf?_eq_some_iff_append_eq] at hbefore
  cases rest with
  | nil => cases hcapital
  | cons c tail =>
    refine ⟨mark.toList, c, tail, ?_, ?_, hcapital, rfl, hbefore.symm⟩
    · rcases List.mem_pair.mp hmark with rfl | rfl <;> decide
    · rcases List.mem_pair.mp hmark with rfl | rfl <;> exact List.all_eq_true.mp (by decide)

/-- The marks of an identifier are read alike for a field and for a method: it has one with an
underscore, or none at all. -/
def MarkedAlike (ident : String) : Prop :=
  (afterSnakeMark? ident.toList).isSome ∨ afterCamelMark? ident.toList = none

instance (ident : String) : Decidable (MarkedAlike ident) := inferInstanceAs (Decidable (_ ∨ _))

/-- A declared field has the name that its accessor method leads to exactly if its marks are read
alike. -/
theorem nameOfIdent_eq_iff (ident : String) :
    nameOfIdent ident = nameOfMethod ident ↔ MarkedAlike ident := by
  unfold nameOfIdent nameOfMethod declaredStem stem MarkedAlike
  rw [String.ofList_inj]
  cases hsnake : afterSnakeMark? ident.toList with
  | some rest => simp
  | none =>
    cases hcamel : afterCamelMark? ident.toList with
    | none => simp
    | some rest =>
      obtain ⟨mark, c, tail, hne, hmark, hc, rfl, hident⟩ := afterCamelMark?_eq_some hcamel
      have hlength := length_camelCase hne hmark hc tail
      have hpos := List.length_pos_iff.mpr hne
      simp only [Option.getD_none, Option.getD_some, Option.isSome_none, reduceCtorEq, or_self,
        iff_false, hident]
      intro h
      rw [h] at hlength
      omega

end EntityQuery.Field
