import Mathlib.Data.List.Induction
import EntityQuery.Proofs.Identifier
import EntityQuery.Proofs.Symbol

/-!
Resemblance: which conventions spell a parameter like an alias or a column. Conventions are checked
one setting at a time, and what stands in front of a parameter's name may be any text at all. So a
parameter can be spelled like something else, but only in two ways: what stands in front of the index
is an alias, or becomes one with an index; or the mark already ends as a column begins.

```
mark  stem  aliases     placeholder                    also read as
:     p     c0, c1 …    :p0, :p1 …                     nothing
c     p     cp0, cp1 …  cp0, cp1 …                     the alias cp0, cp1 …
c0.   p     c0, c1 …    c0.p0, c0.p1 …                 the column p0, p1 … of c0
```
-/

namespace EntityQuery

open Text

/-! ### Numbered names -/

/-- What a numeral begins with is a numeral, and not that of zero, if anything is left of it. -/
theorem toDigits_front {front : List Char} : ∀ (back : List Char) {n : Nat}, back ≠ [] →
    front ++ back = Nat.toDigits 10 n → front = [] ∨ ∃ k, 0 < k ∧ front = Nat.toDigits 10 k := by
  intro back
  induction back using List.reverseRecOn with
  | nil => exact fun hne => absurd rfl hne
  | append_singleton back d ih =>
    intro n _ h
    rw [← List.append_assoc] at h
    rcases Nat.lt_or_ge n 10 with hsmall | hlarge
    · rw [Nat.toDigits_of_lt_base hsmall] at h
      have hone : front ++ back ++ [d] = [] ++ [n.digitChar] := h
      obtain ⟨hnone, -⟩ := List.append_inj' hone rfl
      exact .inl (List.append_eq_nil_iff.mp hnone).1
    · -- without its last digit, the numeral is that of a tenth
      rw [Nat.toDigits_of_base_le (by omega) hlarge] at h
      obtain ⟨hfront, -⟩ := List.append_inj' h rfl
      cases back with
      | nil => exact .inr ⟨n / 10, by omega, by simpa using hfront⟩
      | cons e back => exact ih (List.cons_ne_nil e back) hfront

/-- Two stems have a numbered name in common exactly if they are the same, or one of them is the other
with a positive number behind it. -/
theorem numbered_meet_iff (s t : List Char) :
    (∃ i j, s ++ Nat.toDigits 10 i = t ++ Nat.toDigits 10 j) ↔
      s = t ∨ ∃ n, 0 < n ∧ (s = t ++ Nat.toDigits 10 n ∨ t = s ++ Nat.toDigits 10 n) := by
  constructor
  · rintro ⟨i, j, h⟩
    rcases List.append_eq_append_iff.mp h with ⟨digits, rfl, hi⟩ | ⟨digits, rfl, hj⟩
    · rcases toDigits_front _ Nat.toDigits_ne_nil hi.symm with rfl | ⟨n, hn, rfl⟩
      · exact .inl (List.append_nil s).symm
      · exact .inr ⟨n, hn, .inr rfl⟩
    · rcases toDigits_front _ Nat.toDigits_ne_nil hj.symm with rfl | ⟨n, hn, rfl⟩
      · exact .inl (List.append_nil t)
      · exact .inr ⟨n, hn, .inl rfl⟩
  · -- a positive number with a zero behind it is ten times that number
    have hten : ∀ n, 0 < n → Nat.toDigits 10 n ++ Nat.toDigits 10 0 = Nat.toDigits 10 (10 * n) :=
      fun n hn => Nat.toDigits_append_toDigits (by omega) hn (by omega)
    rintro (rfl | ⟨n, hn, rfl | rfl⟩)
    · exact ⟨0, 0, rfl⟩
    · exact ⟨0, 10 * n, by rw [List.append_assoc, hten n hn]⟩
    · exact ⟨10 * n, 0, by rw [List.append_assoc, hten n hn]⟩

/-- A character that the end of a text lacks stands in the front of it. -/
theorem append_eq_append_cons_iff {α : Type} {front back xs ys : List α} {c : α} (h : c ∉ back) :
    front ++ back = xs ++ c :: ys ↔ ∃ rest, front = xs ++ c :: rest ∧ ys = rest ++ back := by
  constructor
  · intro heq
    rcases List.append_eq_append_iff.mp heq with ⟨more, -, rfl⟩ | ⟨more, rfl, hys⟩
    · exact absurd (by simp) h
    · rcases List.append_eq_cons_iff.mp hys.symm with ⟨rfl, rfl⟩ | ⟨rest, rfl, rfl⟩
      · exact absurd List.mem_cons_self h
      · exact ⟨rest, rfl, rfl⟩
  · rintro ⟨rest, rfl, rfl⟩
    rw [List.append_assoc, List.cons_append]

/-! ### Accepted conventions -/

namespace Conventions

/-- What can be relied on after a validation. -/
structure Usable (c : Conventions) : Prop where
  mark_ne : c.parameterMark ≠ ""
  stem_name : isAsciiIdentifier c.parameterStem.toList
  alias_name : isAsciiIdentifier c.aliasStem.toList
  separates : isSeparator c.separator

variable {c : Conventions}

theorem validate_eq_ok_iff : c.validate = .ok () ↔ c.Usable := by
  have hnone : c.validate = .ok () ↔ settings.find? (!c.meets ·) = none := by
    unfold validate
    cases settings.find? (!c.meets ·) <;> simp
  rw [hnone, List.find?_eq_none]
  constructor
  · intro h
    have hmeets : ∀ s ∈ settings, c.meets s := fun s hs => by simpa using h s hs
    refine ⟨?_, hmeets .parameterStem (by decide), hmeets .aliasStem (by decide),
      hmeets .separator (by decide)⟩
    simpa [meets] using hmeets .parameterMark (by decide)
  · intro h s _
    cases s <;> simp [meets, h.mark_ne, h.stem_name, h.alias_name, h.separates]

/-- No name goes on with the separator. -/
theorem Usable.not_isNameChar (hc : c.Usable) : isNameChar c.separator = false := by
  have hseparates := hc.separates
  rw [isSeparator, Bool.not_eq_true', Bool.or_eq_false_iff, Bool.or_eq_false_iff] at hseparates
  obtain ⟨⟨hletter, -⟩, hline⟩ := hseparates
  refine Bool.or_eq_false_iff.mpr ⟨Bool.eq_false_iff.mpr fun halphanum => ?_, hline⟩
  have hascii : c.separator.toNat < 0x80 := by
    have hrange := isAlphanum_range halphanum
    omega
  rw [isAlphanumeric, isAlphabetic, isNumeric, if_pos hascii, if_pos hascii] at hletter
  exact ne_true_of_eq_false hletter halphanum

theorem Usable.separator_notMem (hc : c.Usable) {s : List Char} (hs : isAsciiIdentifier s) :
    c.separator ∉ s := fun hmem =>
  ne_true_of_eq_false hc.not_isNameChar (isNameChar_of_isAsciiIdentifier hs _ hmem)

/-! ### Spellings -/

/-- The spelling of a column of an entity instance. -/
def fieldReference (c : Conventions) (a : Alias) (column : String) : String :=
  c.aliasName a ++ c.separator.toString ++ column

theorem toList_numbered (s : String) (n : Nat) :
    (s ++ toString n).toList = s.toList ++ Nat.toDigits 10 n := by
  rw [String.toList_append, Nat.toString_eq_repr, Nat.toList_repr]

theorem isAsciiIdentifier_numbered {stem : String} (h : isAsciiIdentifier stem.toList) (n : Nat) :
    isAsciiIdentifier (stem ++ toString n).toList := by
  rw [toList_numbered]
  exact isAsciiIdentifier_append h (isNameChar_digits n)

theorem placeholder_eq (c : Conventions) (i : Nat) :
    c.placeholder i = c.parameterMark ++ c.parameterStem ++ toString i := by
  rw [placeholder, parameterName, String.append_assoc]

theorem toList_fieldReference (c : Conventions) (a : Alias) (column : String) :
    (c.fieldReference a column).toList = (c.aliasName a).toList ++ c.separator :: column.toList := by
  simp [fieldReference]

/-- The symbols of a column spell it. -/
theorem join_column (c : Conventions) (a : Alias) (column : String) :
    String.join ([.aliasOf a, .separator, .column column].map (Symbol.spell c)) =
      c.fieldReference a column := by
  rw [← String.toList_inj, toList_fieldReference]
  simp [Symbol.spell, aliasName, String.join_cons]

theorem Usable.parameterName_name (hc : c.Usable) (i : Nat) :
    isAsciiIdentifier (c.parameterName i).toList :=
  isAsciiIdentifier_numbered hc.stem_name i

/-- Some placeholder is spelled like an alias exactly if what stands in front of the index is the same,
or one an instance of the other. -/
theorem placeholder_meets_alias_iff : (∃ i a, c.placeholder i = c.aliasName a) ↔
    c.parameterMark ++ c.parameterStem = c.aliasStem ∨ ∃ n, 0 < n ∧
      (c.parameterMark ++ c.parameterStem = c.aliasName n ∨ c.aliasStem = c.placeholder n) := by
  have hmeet := numbered_meet_iff (c.parameterMark ++ c.parameterStem).toList c.aliasStem.toList
  simp only [← toList_numbered, String.toList_inj, ← placeholder_eq] at hmeet
  exact hmeet

/-- A placeholder is spelled like a column exactly if the mark begins like one, and the column goes on
with the name of the parameter. -/
theorem Usable.placeholder_eq_fieldReference_iff (hc : c.Usable) {i : Nat} {a : Alias}
    {column : String} : c.placeholder i = c.fieldReference a column ↔
      ∃ rest, c.parameterMark = c.fieldReference a rest ∧ column = rest ++ c.parameterName i := by
  have hnot := hc.separator_notMem (hc.parameterName_name i)
  rw [← String.toList_inj, placeholder, String.toList_append, toList_fieldReference,
    append_eq_append_cons_iff hnot]
  constructor
  · rintro ⟨rest, hmark, hcolumn⟩
    refine ⟨String.ofList rest, ?_, ?_⟩
    · rw [← String.toList_inj, toList_fieldReference, String.toList_ofList, hmark]
    · rw [← String.toList_inj, String.toList_append, String.toList_ofList, hcolumn]
  · rintro ⟨rest, hmark, rfl⟩
    exact ⟨rest.toList, by rw [hmark, toList_fieldReference], String.toList_append ..⟩

/-! ### What keeps parameters apart -/

/-- No parameter is spelled like an alias or like a column. -/
def KeepsApart (c : Conventions) : Prop :=
  ∀ i a, c.placeholder i ≠ c.aliasName a ∧
    ∀ column : String, isAsciiIdentifier column.toList → c.placeholder i ≠ c.fieldReference a column

/-- What stands in front of the index of a parameter and of an alias is told apart as it is. -/
structure Unmistakable (c : Conventions) : Prop where
  stems_ne : c.parameterMark ++ c.parameterStem ≠ c.aliasStem
  no_alias : ∀ a, 0 < a → c.parameterMark ++ c.parameterStem ≠ c.aliasName a
  no_placeholder : ∀ i, 0 < i → c.aliasStem ≠ c.placeholder i
  no_reference : ∀ a rest, rest = "" ∨ isAsciiIdentifier rest.toList →
    c.parameterMark ≠ c.fieldReference a rest

theorem Usable.keepsApart_iff (hc : c.Usable) : c.KeepsApart ↔ c.Unmistakable := by
  constructor
  · intro h
    have hnone : ¬∃ i a, c.placeholder i = c.aliasName a := fun ⟨i, a, heq⟩ => (h i a).1 heq
    rw [placeholder_meets_alias_iff] at hnone
    refine ⟨fun heq => hnone (.inl heq), fun a ha heq => hnone (.inr ⟨a, ha, .inl heq⟩),
      fun i hi heq => hnone (.inr ⟨i, hi, .inr heq⟩), fun a rest hrest hmark => ?_⟩
    have hcolumn : isAsciiIdentifier (rest ++ c.parameterName 0).toList := by
      rw [String.toList_append, isAsciiIdentifier_append_iff (hc.parameterName_name 0)]
      simpa using hrest
    exact (h 0 a).2 _ hcolumn (hc.placeholder_eq_fieldReference_iff.mpr ⟨rest, hmark, rfl⟩)
  · intro h i a
    refine ⟨fun heq => ?_, fun column hcolumn heq => ?_⟩
    · rcases placeholder_meets_alias_iff.mp ⟨i, a, heq⟩ with hsame | ⟨n, hn, hlonger | hlonger⟩
      · exact h.stems_ne hsame
      · exact h.no_alias n hn hlonger
      · exact h.no_placeholder n hn hlonger
    · obtain ⟨rest, hmark, rfl⟩ := hc.placeholder_eq_fieldReference_iff.mp heq
      rw [String.toList_append, isAsciiIdentifier_append_iff (hc.parameterName_name i)] at hcolumn
      exact h.no_reference a rest (by simpa using hcolumn) hmark

/-- A mark that begins as no name does keeps parameters apart. -/
theorem Usable.unmistakable_of_mark (hc : c.Usable)
    (hmark : c.parameterMark.toList.head?.any fun d => !(d.isAlpha || d = '_')) :
    c.Unmistakable := by
  -- texts that begin with the mark are told from those that begin with an alias by the first character
  have hne : ∀ x y : String, c.parameterMark ++ x ≠ c.aliasStem ++ y := by
    intro x y h
    obtain ⟨first, others, halias, hfirst⟩ := isAsciiIdentifier_head hc.alias_name
    cases hlist : c.parameterMark.toList with
    | nil =>
      rw [hlist] at hmark
      cases hmark
    | cons d more =>
      have hsame := congrArg String.toList h
      rw [String.toList_append, String.toList_append, hlist, halias] at hsame
      obtain ⟨rfl, -⟩ := List.cons.inj hsame
      rw [hlist] at hmark
      exact absurd hfirst (by simpa using hmark)
  refine ⟨fun h => hne c.parameterStem "" ?_, fun a _ => hne c.parameterStem (toString a),
    fun i _ h => hne (c.parameterName i) "" ?_, fun a rest _ h =>
      hne "" (toString a ++ (c.separator.toString ++ rest)) ?_⟩
  · rw [h, String.append_empty]
  · rw [String.append_empty, h, placeholder]
  · rw [String.append_empty, h, fieldReference, aliasName, String.append_assoc, String.append_assoc]

end Conventions

/-- RESEMBLANCE: accepted conventions keep parameters apart from aliases and columns exactly if they tell
the stems of the two apart as they are; a mark that begins with no letter and no underscore does that.
Then no place in the text of a query is spelled like an alias in it, or like a column in it that is an
identifier. -/
theorem parameters_apart_iff_unmistakable {c : Conventions} (h : c.validate = .ok ()) :
    (c.KeepsApart ↔ c.Unmistakable) ∧
    (c.parameterMark.toList.head?.any (fun d => !(d.isAlpha || d = '_')) → c.Unmistakable) ∧
    ∀ m q rendered, Renderer.render ⟨c, m⟩ q = .ok rendered → c.Unmistakable →
      ∃ symbols, Regular m symbols ∧ rendered.text = String.join (symbols.map (Symbol.spell c)) ∧
        ∀ i, .placeholder i ∈ symbols →
          (∀ a, .aliasOf a ∈ symbols →
            Symbol.spell c (.placeholder i) ≠ Symbol.spell c (.aliasOf a)) ∧
          ∀ a s, [.aliasOf a, .separator, .column s] <:+: symbols → isAsciiIdentifier s.toList →
            Symbol.spell c (.placeholder i) ≠
              String.join ([.aliasOf a, .separator, .column s].map (Symbol.spell c)) := by
  have husable := Conventions.validate_eq_ok_iff.mp h
  refine ⟨husable.keepsApart_iff, husable.unmistakable_of_mark, fun m q rendered hrender hc => ?_⟩
  obtain ⟨pieces, hstatement, rfl⟩ := Renderer.render_ok hrender
  obtain ⟨symbols, hregular, -, hspell⟩ := (Query.statement_words hstatement).symbols 0
  have hapart := husable.keepsApart_iff.mpr hc
  refine ⟨symbols, hregular, hspell c, fun i _ => ⟨fun a _ => (hapart i a).1, fun a s _ hs => ?_⟩⟩
  rw [Conventions.join_column]
  exact (hapart i a).2 s hs

/-- A query on staff with one place. -/
def reporting : Query where
  entity := staff
  root := 0
  nodes := [.predicate (reportsOf 0) .eq (.value (.bool true))]

theorem parameters_apart_iff_unmistakable_reporting :
    Conventions.validate {} = .ok () ∧ Conventions.KeepsApart {} ∧
    ∃ rendered symbols, Renderer.render {} reporting = .ok rendered ∧ Regular .ofModels symbols ∧
      rendered.text = String.join (symbols.map (Symbol.spell {})) ∧
      ∀ i a, .placeholder i ∈ symbols → .aliasOf a ∈ symbols →
        Symbol.spell {} (.placeholder i) ≠ Symbol.spell {} (.aliasOf a) := by
  have hvalid : Conventions.validate {} = .ok () := by decide
  obtain ⟨hiff, hmark, htext⟩ := parameters_apart_iff_unmistakable hvalid
  have hordering : Clause.ordering .ofModels reporting.nodes = .ok [] :=
    Clause.ordering_eq_nil _ (by simp [reporting, Clause.orderTerms])
  obtain ⟨rendered, hrender⟩ : ∃ rendered, Renderer.render {} reporting = .ok rendered := by
    rw [Renderer.render_eq, Query.statement_clauses, hordering]
    exact ⟨_, rfl⟩
  obtain ⟨symbols, hregular, hsymbols, hapart⟩ :=
    htext .ofModels reporting rendered hrender (hmark (by decide))
  exact ⟨hvalid, hiff.mpr (hmark (by decide)), rendered, symbols, hrender, hregular, hsymbols,
    fun i a hi => (hapart i hi).1 a⟩

/-- Accepted conventions whose parameters are spelled like aliases. -/
def lookalike : Conventions := { parameterMark := "c", aliasStem := "cp" }

/-- Accepted conventions whose parameters are spelled like columns of the root. -/
def columnlike : Conventions := { parameterMark := "c0." }

theorem accepted_conventions_not_apart :
    lookalike.validate = .ok () ∧ ¬lookalike.KeepsApart ∧
    columnlike.validate = .ok () ∧ ¬columnlike.KeepsApart := by
  refine ⟨by decide, fun h => (h 0 0).1 (by decide), by decide, fun h => ?_⟩
  exact (h 0 0).2 "p0" (by decide) (by decide)

end EntityQuery
