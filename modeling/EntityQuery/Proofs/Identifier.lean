import EntityQuery.Text.Identifier

/-!
ASCII identifiers. An identifier begins with a letter or an underscore and goes on with those and with
digits. So it stays one with a number behind it, which is how aliases and parameters are named, and what
stands in front of an identifier within a longer one is an identifier itself, or nothing.

```
stem   number   name
tmp_   12       tmp_12
c      0        c0
```
-/

namespace EntityQuery

open Text

/-- Whether a character can go on an identifier. -/
def isNameChar (c : Char) : Bool := c.isAlphanum || c = '_'

theorem isNameChar_of_isAsciiIdentifier {s : List Char} (h : isAsciiIdentifier s) :
    ∀ c ∈ s, isNameChar c := by
  cases s with
  | nil => cases h
  | cons first rest =>
    obtain ⟨hfirst, hrest⟩ := Bool.and_eq_true_iff.mp h
    refine List.forall_mem_cons.mpr ⟨?_, List.all_eq_true.mp hrest⟩
    rcases Bool.or_eq_true_iff.mp hfirst with hletter | hline
    · simp [isNameChar, Char.isAlphanum, hletter]
    · simp [isNameChar, of_decide_eq_true hline]

theorem isNameChar_digits (n : Nat) : ∀ c ∈ Nat.toDigits 10 n, isNameChar c := by
  intro c hc
  have hdigit := Nat.isDigit_of_mem_toDigits (by omega) (by omega) hc
  simp [isNameChar, Char.isAlphanum, hdigit]

theorem isAsciiIdentifier_append {s t : List Char} (hs : isAsciiIdentifier s)
    (ht : ∀ c ∈ t, isNameChar c) : isAsciiIdentifier (s ++ t) := by
  cases s with
  | nil => cases hs
  | cons first rest =>
    obtain ⟨hfirst, hrest⟩ := Bool.and_eq_true_iff.mp hs
    refine Bool.and_eq_true_iff.mpr ⟨hfirst, List.all_eq_true.mpr ?_⟩
    exact List.forall_mem_append.mpr ⟨List.all_eq_true.mp hrest, ht⟩

theorem isAsciiIdentifier_head {s : List Char} (h : isAsciiIdentifier s) :
    ∃ first rest, s = first :: rest ∧ (first.isAlpha || first = '_') := by
  cases s with
  | nil => cases h
  | cons first rest => exact ⟨first, rest, rfl, (Bool.and_eq_true_iff.mp h).1⟩

/-- What stands in front of an identifier without breaking it is an identifier, or nothing. -/
theorem isAsciiIdentifier_append_iff {s t : List Char} (ht : isAsciiIdentifier t) :
    isAsciiIdentifier (s ++ t) ↔ s = [] ∨ isAsciiIdentifier s := by
  constructor
  · intro h
    cases s with
    | nil => exact .inl rfl
    | cons first rest =>
      obtain ⟨hfirst, hrest⟩ := Bool.and_eq_true_iff.mp h
      refine .inr (Bool.and_eq_true_iff.mpr ⟨hfirst, List.all_eq_true.mpr fun c hc => ?_⟩)
      exact List.all_eq_true.mp hrest c (List.mem_append_left t hc)
  · rintro (rfl | hs)
    · exact ht
    · exact isAsciiIdentifier_append hs (isNameChar_of_isAsciiIdentifier ht)

end EntityQuery
