import EntityQuery.Proofs.Naming
import Mathlib.Data.List.Flatten

/-!
Camel case of printed ASCII. There a text falls into its single characters, a cluster is of the kind
that its character has, and a change of case changes one character at a time. A text can then be cut
where words end, its words are those of the parts, and their case makes no difference.

```
text         words          in lowercase
last_name    last | name    last | name
lastName     last | Name    last | name
LastName     Last | Name    last | name
```
-/

namespace EntityQuery.Text

/-! ### Single characters -/

theorem clusters_printable : ∀ {s : List Char}, (∀ c ∈ s, IsPrintable c) →
    clusters s = s.map ([·])
  | [], _ => rfl
  | [_], _ => rfl
  | c :: d :: rest, hs => by
    have ih := clusters_printable fun m hm => hs m (List.mem_cons_of_mem c hm)
    rw [clusters_cons (hs c (by simp)) (hs d (by simp)), ih]
    rfl

/-- A character and its cluster are of the same kind. -/
theorem IsPrintable.kind {c : Char} (hc : IsPrintable c) :
    isCapital [c] = c.isUpper ∧ isSmall [c] = c.isLower ∧ isDigits [c] = c.isDigit := by
  have hall : ∀ n ∈ List.range' 0x20 95, isCapital [Char.ofNat n] = (Char.ofNat n).isUpper ∧
      isSmall [Char.ofNat n] = (Char.ofNat n).isLower ∧
      isDigits [Char.ofNat n] = (Char.ofNat n).isDigit := by
    decide +kernel
  have hrange := printable_has_iff.mp hc
  rw [← Char.ofNat_toNat c]
  exact hall c.toNat (by rw [List.mem_range'_1]; omega)

theorem isAlpha_of_isUpper {c : Char} (hc : c.isUpper) : c.isAlpha := Bool.or_eq_true_iff.mpr (.inl hc)

theorem isAlpha_of_isLower {c : Char} (hc : c.isLower) : c.isAlpha := Bool.or_eq_true_iff.mpr (.inr hc)

theorem isAlphanum_of_isAlpha {c : Char} (hc : c.isAlpha) : c.isAlphanum :=
  Bool.or_eq_true_iff.mpr (.inl hc)

/-- A character whose case can be changed and changed back. -/
structure Cased (c : Char) : Prop where
  lower_lower : c.toLower.toLower = c.toLower
  upper_lower : c.toUpper.toLower = c.toLower
  lower_upper : c.toLower.toUpper = c.toUpper
  /-- In lowercase it is a letter or digit if it was one. -/
  alphanum : c.toLower.isAlphanum = c.isAlphanum
  /-- A capital is no small letter. -/
  not_lower : c.isUpper → c.isLower = false
  lower_isUpper : c.toLower.isUpper = false
  /-- Every letter has a capital. -/
  upper_isUpper : c.toUpper.isUpper = c.isAlpha

theorem IsPrintable.cased {c : Char} (hc : IsPrintable c) : Cased c := by
  have hall : ∀ n ∈ List.range' 0x20 95,
      (Char.ofNat n).toLower.toLower = (Char.ofNat n).toLower ∧
      (Char.ofNat n).toUpper.toLower = (Char.ofNat n).toLower ∧
      (Char.ofNat n).toLower.toUpper = (Char.ofNat n).toUpper ∧
      (Char.ofNat n).toLower.isAlphanum = (Char.ofNat n).isAlphanum ∧
      ((Char.ofNat n).isUpper → (Char.ofNat n).isLower = false) ∧
      (Char.ofNat n).toLower.isUpper = false ∧
      (Char.ofNat n).toUpper.isUpper = (Char.ofNat n).isAlpha := by
    decide +kernel
  have hrange := printable_has_iff.mp hc
  rw [← Char.ofNat_toNat c]
  obtain ⟨hlower, hupper, hback, halphanum, hkind, hsmall, hcapital⟩ :=
    hall c.toNat (by rw [List.mem_range'_1]; omega)
  exact ⟨hlower, hupper, hback, halphanum, hkind, hsmall, hcapital⟩

/-- What is no capital is in lowercase already. -/
theorem toLower_eq_self {c : Char} (hc : c.isUpper = false) : c.toLower = c :=
  dif_neg (of_decide_eq_false hc)

theorem isAlphanum_toLower (c : Char) : c.toLower.isAlphanum = c.isAlphanum := by
  cases hupper : c.isUpper with
  | true => exact (isPrintable_of_isUpper hupper).cased.alphanum
  | false => rw [toLower_eq_self hupper]

/-- What a word is made of where it is written without a capital. -/
def isPlain (c : Char) : Bool := c.isLower || c.isDigit

theorem isAlphanum_of_isPlain {c : Char} (hc : isPlain c) : c.isAlphanum := by
  rcases Bool.or_eq_true_iff.mp hc with h | h
  · exact isAlphanum_of_isAlpha (isAlpha_of_isLower h)
  · exact Bool.or_eq_true_iff.mpr (.inr h)

theorem not_isUpper_of_isPlain {c : Char} (hc : isPlain c) : c.isUpper = false := by
  rw [Bool.eq_false_iff]
  intro hupper
  have hcapital := isUpper_range hupper
  rcases Bool.or_eq_true_iff.mp hc with h | h
  · have hsmall := isLower_range h
    omega
  · have hdigit := isDigit_range h
    omega

theorem not_isPlain_of_isUpper {c : Char} (hc : c.isUpper) : isPlain c = false := by
  rw [Bool.eq_false_iff]
  intro hplain
  exact ne_true_of_eq_false (not_isUpper_of_isPlain hplain) hc

theorem isPrintable_of_isAlphanum {c : Char} (hc : c.isAlphanum) : IsPrintable c := by
  have h := isAlphanum_range hc
  exact printable_has_iff.mpr ⟨by omega, by omega⟩

theorem isDelimiter_of_isAlphanum {c : Char} (hc : c.isAlphanum) : isDelimiter [c] = false := by
  have hmarks : c ≠ '_' ∧ c ≠ '-' ∧ c ≠ ' ' := by
    refine ⟨?_, ?_, ?_⟩ <;> rintro rfl <;> cases hc
  simp [isDelimiter, hmarks]

theorem lowerAfter_printable : ∀ {s : List Char}, (∀ c ∈ s, IsPrintable c) →
    ∀ before, lowerAfter before s = s.map Char.toLower
  | [], _, _ => rfl
  | c :: rest, hs, before => by
    have hc : IsPrintable c := hs c List.mem_cons_self
    have hsigma : c ≠ 'Σ' := hc.ne (by decide)
    rw [lowerAfter, if_neg hsigma, lowerChar, if_pos hc.lt,
      lowerAfter_printable fun d hd => hs d (List.mem_cons_of_mem _ hd)]
    rfl

theorem lowercase_printable {s : List Char} (hs : ∀ c ∈ s, IsPrintable c) :
    lowercase s = s.map Char.toLower :=
  lowerAfter_printable hs []

theorem capitalize_printable {c : Char} {s : List Char} (hs : ∀ d ∈ c :: s, IsPrintable d) :
    capitalize (c :: s) = c.toUpper :: s.map Char.toLower := by
  have hc : IsPrintable c := hs c List.mem_cons_self
  rw [capitalize, upperChar, if_pos hc.lt,
    lowercase_printable fun d hd => hs d (List.mem_cons_of_mem _ hd)]
  rfl

theorem map_toLower_toLower {s : List Char} (hs : ∀ c ∈ s, IsPrintable c) :
    (s.map Char.toLower).map Char.toLower = s.map Char.toLower := by
  rw [List.map_map]
  exact List.map_congr_left fun c hc => (hs c hc).cased.lower_lower

theorem map_toLower_plain {s : List Char} (hs : ∀ c ∈ s, isPlain c) : s.map Char.toLower = s := by
  refine (List.map_congr_left fun c hc => ?_).trans s.map_id
  exact toLower_eq_self (not_isUpper_of_isPlain (hs c hc))

/-! ### Cuts -/

/-- Whether a word ends depends on the next cluster, and on the one after it only if that is a small
letter. -/
theorem endsWord_append {c d : List Char} {rest : List (List Char)} (hne : rest ≠ [])
    (hd : isSmall d = false) (ys : List (List Char)) :
    endsWord c (rest ++ d :: ys) = endsWord c rest := by
  cases rest with
  | nil => exact absurd rfl hne
  | cons e after =>
    cases after with
    | nil => simp [endsWord, hd]
    | cons f after => rfl

theorem words_ne_nil : ∀ s : List (List Char), words s ≠ []
  | [] => List.cons_ne_nil _ _
  | c :: rest => by
    rw [words]
    split_ifs
    · exact List.cons_ne_nil _ _
    · exact List.cons_ne_nil _ _
    · split <;> exact List.cons_ne_nil _ _

/-- A cluster in front of two parts goes to the first, if it ends a word there as it did. -/
theorem words_cons_append {c : List Char} {rest tail : List (List Char)}
    {others : List (List Char)} (hends : endsWord c (rest ++ tail) = endsWord c rest)
    (hrest : words (rest ++ tail) = words rest ++ others) :
    words (c :: (rest ++ tail)) = words (c :: rest) ++ others := by
  rw [words, words, hends, hrest]
  split_ifs
  · rfl
  · rfl
  · obtain ⟨word, more, hwords⟩ := List.exists_cons_of_ne_nil (words_ne_nil rest)
    rw [hwords]
    rfl

/-- DELIMITER: the words of a text with a delimiter in it are those before and those after it. -/
theorem words_append_delimiter {d : List Char} (hd : isDelimiter d) (ys : List (List Char)) :
    ∀ xs : List (List Char), words (xs ++ d :: ys) = words xs ++ words ys
  | [] => if_pos hd
  | c :: rest => by
    have hkind : isSmall d = false ∧ isCapital d = false ∧ isDigits d = false := by
      simp only [isDelimiter, Bool.or_eq_true, beq_iff_eq] at hd
      rcases hd with (rfl | rfl) | rfl <;> decide
    obtain ⟨hsmall, hcapital, hdigits⟩ := hkind
    refine words_cons_append ?_ (words_append_delimiter hd ys rest)
    cases rest with
    | nil => simp [endsWord, hsmall, hcapital, hdigits]
    | cons e after => exact endsWord_append (List.cons_ne_nil _ _) hsmall ys

/-- CAPITAL: the words of a text with a capital after a small letter or a digit are those before
the capital and those from it on. -/
theorem words_append_capital {d : List Char} (hcapital : isCapital d) (hsmall : isSmall d = false)
    (ys : List (List Char)) : ∀ (xs : List (List Char)) (c : List Char), xs.getLast? = some c →
      isDelimiter c = false → isSmall c ∨ isDigits c →
      words (xs ++ d :: ys) = words xs ++ words (d :: ys)
  | [], _, hlast, _, _ => by cases hlast
  | [c'], c, hlast, hdelimiter, hc => by
    obtain rfl : c' = c := Option.some.inj hlast
    have hends : endsWord c' (d :: ys) := by
      rcases hc with hc | hc <;> simp [endsWord, hc, hcapital]
    have hword : words [c'] = [c'] := by simp [words, endsWord, hdelimiter]
    rw [List.singleton_append, words, if_neg (ne_true_of_eq_false hdelimiter), if_pos hends, hword]
    rfl
  | e :: f :: rest, c, hlast, hdelimiter, hc =>
    words_cons_append (endsWord_append (List.cons_ne_nil _ _) hsmall ys)
      (words_append_capital hcapital hsmall ys (f :: rest) c hlast hdelimiter hc)

/-- Between a letter and what a word goes on with, a word ends only where digits begin. -/
theorem words_letter {x d : Char} (hx : x.isAlpha) (hd : isPlain d) (rest : List (List Char)) :
    words ([x] :: [d] :: rest) =
      if d.isDigit then [x] :: words ([d] :: rest)
      else (words ([d] :: rest)).modifyHead (x :: ·) := by
  have halphanum : x.isAlphanum := by simp [Char.isAlphanum, hx]
  obtain ⟨hcapital, hsmall, hdigits⟩ := (isPrintable_of_isAlphanum halphanum).kind
  obtain ⟨hcapital', -, hdigits'⟩ := (isPrintable_of_isAlphanum (isAlphanum_of_isPlain hd)).kind
  have hends : endsWord [x] ([d] :: rest) = d.isDigit := by
    have hnodigit : x.isDigit = false := by
      rw [Bool.eq_false_iff]
      intro hdigit
      have hletter := isAlpha_range hx
      have h := isDigit_range hdigit
      omega
    simp only [endsWord, hcapital, hsmall, hdigits, hcapital', hdigits', not_isUpper_of_isPlain hd,
      hnodigit]
    rcases Bool.or_eq_true_iff.mp hx with h | h <;> simp [h]
  rw [words, if_neg (ne_true_of_eq_false (isDelimiter_of_isAlphanum halphanum)), hends]
  obtain ⟨word, others, hwords⟩ := List.exists_cons_of_ne_nil (words_ne_nil ([d] :: rest))
  rw [hwords]
  rfl

/-- Small letters are one word. -/
theorem words_small : ∀ {s : List Char}, (∀ c ∈ s, c.isLower) → words (s.map ([·])) = [s]
  | [], _ => rfl
  | [c], hs => by
    obtain ⟨hdelimiter, -⟩ := small_letter (hs c List.mem_cons_self)
    simp [words, endsWord, hdelimiter]
  | c :: d :: rest, hs => by
    obtain ⟨hdelimiter, -⟩ := small_letter (hs c List.mem_cons_self)
    have hgoes : endsWord [c] ((d :: rest).map ([·])) = false :=
      endsWord_small (hs c (by simp)) (hs d (by simp)) _
    have ih := words_small fun m hm => hs m (List.mem_cons_of_mem c hm)
    rw [List.map_cons, words, if_neg (ne_true_of_eq_false hdelimiter),
      if_neg (ne_true_of_eq_false hgoes), ih]
    rfl

/-- The words of a text are its clusters in order, without the delimiters. -/
theorem words_flatten : ∀ s : List (List Char),
    (words s).flatten = (s.filter (!isDelimiter ·)).flatten
  | [] => rfl
  | c :: rest => by
    have ih := words_flatten rest
    rw [words]
    split_ifs with hdelimiter
    · simp [hdelimiter, ih]
    · simp [hdelimiter, ih]
    · obtain ⟨word, more, hwords⟩ := List.exists_cons_of_ne_nil (words_ne_nil rest)
      rw [hwords] at ih ⊢
      simp [hdelimiter, ← ih]

/-- The characters of the words are characters of the text. -/
theorem words_subset (s : List (List Char)) : (words s).flatten ⊆ s.flatten := by
  rw [words_flatten]
  exact List.filter_sublist.flatten.subset

/-! ### Words in lowercase -/

/-- The words of a text in lowercase. -/
def plainWords (s : List Char) : List (List Char) := (words (clusters s)).map (·.map Char.toLower)

theorem isPrintable_toLower {c : Char} (hc : IsPrintable c) : IsPrintable c.toLower := by
  cases hupper : c.isUpper with
  | true =>
    have hletter := isAlphanum_of_isAlpha (isAlpha_of_isUpper hupper)
    exact isPrintable_of_isAlphanum ((isAlphanum_toLower c).trans hletter)
  | false => rwa [toLower_eq_self hupper]

theorem lowercase_toLower {s : List Char} (hs : ∀ c ∈ s, IsPrintable c) :
    lowercase (s.map Char.toLower) = lowercase s := by
  have hsmall : ∀ c ∈ s.map Char.toLower, IsPrintable c :=
    List.forall_mem_map.mpr fun c hc => isPrintable_toLower (hs c hc)
  rw [lowercase_printable hsmall, lowercase_printable hs, map_toLower_toLower hs]

theorem capitalize_toLower {s : List Char} (hs : ∀ c ∈ s, IsPrintable c) :
    capitalize (s.map Char.toLower) = capitalize s := by
  cases s with
  | nil => rfl
  | cons c s =>
    obtain ⟨hc, hs⟩ := List.forall_mem_cons.mp hs
    rw [List.map_cons, capitalize, capitalize, lowercase_toLower hs, upperChar, upperChar,
      if_pos hc.lt, if_pos (isPrintable_toLower hc).lt, hc.cased.lower_upper]

theorem joinCamel_toLower {ws : List (List Char)} (hs : ∀ word ∈ ws, ∀ c ∈ word, IsPrintable c) :
    joinCamel (ws.map (·.map Char.toLower)) = joinCamel ws := by
  cases ws with
  | nil => rfl
  | cons word others =>
    obtain ⟨hword, hothers⟩ := List.forall_mem_cons.mp hs
    rw [List.map_cons, joinCamel, joinCamel, lowercase_toLower hword, List.flatMap_map]
    exact congrArg _ (List.flatMap_congr fun w hw => capitalize_toLower (hothers w hw))

theorem words_printable {s : List Char} (hs : ∀ c ∈ s, IsPrintable c) :
    ∀ word ∈ words (clusters s), ∀ c ∈ word, IsPrintable c := by
  intro word hword c hc
  have hmem := words_subset _ (List.mem_flatten_of_mem hword hc)
  rw [clusters_printable hs] at hmem
  exact hs c (by simpa using hmem)

/-- The camel case form of a text is that of its words in lowercase. -/
theorem camelCase_eq {s : List Char} (hs : ∀ c ∈ s, IsPrintable c) :
    camelCase s = joinCamel (plainWords s) :=
  (joinCamel_toLower (words_printable hs)).symm

theorem plainWords_append_delimiter {xs ys : List Char} (hxs : ∀ c ∈ xs, IsPrintable c)
    (hys : ∀ c ∈ ys, IsPrintable c) :
    plainWords (xs ++ '_' :: ys) = plainWords xs ++ plainWords ys := by
  have hall : ∀ c ∈ xs ++ '_' :: ys, IsPrintable c :=
    List.forall_mem_append.mpr ⟨hxs, List.forall_mem_cons.mpr ⟨by decide, hys⟩⟩
  rw [plainWords, clusters_printable hall, List.map_append, List.map_cons,
    words_append_delimiter (by decide), List.map_append, plainWords, plainWords,
    clusters_printable hxs, clusters_printable hys]

theorem plainWords_append_capital {xs ys : List Char} {c d : Char}
    (hxs : ∀ x ∈ xs, IsPrintable x) (hys : ∀ y ∈ d :: ys, IsPrintable y)
    (hlast : xs.getLast? = some c) (hc : isPlain c) (hd : d.isUpper) :
    plainWords (xs ++ d :: ys) = plainWords xs ++ plainWords (d :: ys) := by
  obtain ⟨hcapital, hsmall, -⟩ := (hys d List.mem_cons_self).kind
  obtain ⟨-, hsmall', hdigits'⟩ := (hxs c (List.mem_of_getLast? hlast)).kind
  have hcut := words_append_capital (hcapital.trans hd)
    (hsmall.trans ((hys d List.mem_cons_self).cased.not_lower hd)) (ys.map ([·])) (xs.map ([·])) [c]
    (by simp [hlast]) (isDelimiter_of_isAlphanum (isAlphanum_of_isPlain hc))
    (by rw [hsmall', hdigits']; exact Bool.or_eq_true_iff.mp hc)
  rw [plainWords, clusters_printable (List.forall_mem_append.mpr ⟨hxs, hys⟩), List.map_append,
    List.map_cons, hcut, List.map_append, plainWords, plainWords, clusters_printable hxs,
    clusters_printable hys, List.map_cons]

theorem plainWords_small {s : List Char} (hs : ∀ c ∈ s, c.isLower) : plainWords s = [s] := by
  have hplain : ∀ c ∈ s, isPlain c := fun c hc => by simp [isPlain, hs c hc]
  rw [plainWords, clusters_printable fun c hc => isPrintable_of_isLower (hs c hc), words_small hs,
    List.map_singleton, map_toLower_plain hplain]

end EntityQuery.Text
