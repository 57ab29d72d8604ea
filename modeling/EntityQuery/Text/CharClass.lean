/-!
Character classes. A class is a list of closed code-point ranges, so a table of a standard can be
written down as it is published and membership is one scan.
-/

namespace EntityQuery.Text

/-- A set of characters, as closed ranges of code points in ascending order. -/
abbrev CharClass := List (Nat × Nat)

/-- Whether a character lies in one of the ranges. -/
def CharClass.has (ranges : CharClass) (c : Char) : Bool :=
  ranges.any fun range => range.1 ≤ c.toNat && c.toNat ≤ range.2

/-- Whether no range of one class meets a range of another. -/
def CharClass.apart (ranges others : CharClass) : Bool :=
  ranges.all fun range => others.all fun other => range.2 < other.1 || other.2 < range.1

/-- A character of one class is in no class apart from it. -/
theorem CharClass.has_eq_false {ranges others : CharClass} (h : ranges.apart others) {c : Char}
    (hc : ranges.has c) : others.has c = false := by
  obtain ⟨range, hrange, hc⟩ := List.any_eq_true.mp hc
  unfold CharClass.has
  rw [List.any_eq_false]
  intro other hother hc'
  have hapart := List.all_eq_true.mp (List.all_eq_true.mp h range hrange) other hother
  simp only [Bool.or_eq_true, Bool.and_eq_true, decide_eq_true_eq] at hc hc' hapart
  omega

/-! ### The characters of ASCII words -/

theorem isUpper_range {c : Char} (h : c.isUpper) : 0x41 ≤ c.toNat ∧ c.toNat ≤ 0x5A :=
  of_decide_eq_true h

theorem isLower_range {c : Char} (h : c.isLower) : 0x61 ≤ c.toNat ∧ c.toNat ≤ 0x7A := by
  obtain ⟨hfirst, hlast⟩ := Bool.and_eq_true_iff.mp h
  exact ⟨of_decide_eq_true hfirst, of_decide_eq_true hlast⟩

theorem isDigit_range {c : Char} (h : c.isDigit) : 0x30 ≤ c.toNat ∧ c.toNat ≤ 0x39 := by
  obtain ⟨hfirst, hlast⟩ := Bool.and_eq_true_iff.mp h
  exact ⟨of_decide_eq_true hfirst, of_decide_eq_true hlast⟩

theorem isAlpha_range {c : Char} (h : c.isAlpha) : 0x41 ≤ c.toNat ∧ c.toNat ≤ 0x7A := by
  rcases Bool.or_eq_true_iff.mp h with h | h
  · have hrange := isUpper_range h
    omega
  · have hrange := isLower_range h
    omega

theorem isAlphanum_range {c : Char} (h : c.isAlphanum) : 0x30 ≤ c.toNat ∧ c.toNat ≤ 0x7A := by
  rcases Bool.or_eq_true_iff.mp h with h | h
  · have hrange := isAlpha_range h
    omega
  · have hrange := isDigit_range h
    omega

end EntityQuery.Text
