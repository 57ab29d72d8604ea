import EntityQuery.Proofs.Resemblance

/-!
References: a column behind the alias of its instance. A reference is read back by cutting it at the first
separator. Accepted conventions make that safe for any column at all, since an alias is an identifier and
a separator goes on no name; a separator in the column comes too late to be mistaken for the first.

```
alias  separator  column       reference        first cut
c0     .          lastName     c0.lastName      c0 | lastName
c0     .          a.b          c0.a.b           c0 | a.b
c01    →          →x           c01→→x           c01 | →x
```
-/

namespace EntityQuery

open Text

/-! ### Cutting a text -/

/-- What stands before and behind the first `d` of a text, if there is one. -/
def cutAt? (d : Char) : List Char → Option (List Char × List Char)
  | [] => none
  | c :: rest =>
    if c = d then some ([], rest)
    else (cutAt? d rest).map fun (front, back) => (c :: front, back)

/-- A text is cut where a `d` stands with none before it. -/
theorem cutAt?_eq_some_iff {d : Char} : ∀ {s front back : List Char},
    cutAt? d s = some (front, back) ↔ d ∉ front ∧ s = front ++ d :: back
  | [], _, _ => by simp [cutAt?]
  | c :: rest, front, back => by
    rw [cutAt?]
    split_ifs with hc
    · subst hc
      cases front with
      | nil => simp
      | cons e front =>
        refine iff_of_false (by simp) ?_
        rintro ⟨hnot, hs⟩
        obtain ⟨rfl, -⟩ := List.cons.inj hs
        exact hnot List.mem_cons_self
    · constructor
      · intro h
        obtain ⟨⟨front', back'⟩, hcut, heq⟩ := Option.map_eq_some_iff.mp h
        cases heq
        obtain ⟨hnot, rfl⟩ := cutAt?_eq_some_iff.mp hcut
        exact ⟨List.not_mem_cons_of_ne_of_not_mem (Ne.symm hc) hnot, rfl⟩
      · rintro ⟨hnot, hs⟩
        cases front with
        | nil => exact absurd (List.cons.inj hs).1 hc
        | cons e front =>
          obtain ⟨rfl, hrest⟩ := List.cons.inj hs
          have hnot' : d ∉ front := fun hmem => hnot (List.mem_cons_of_mem c hmem)
          rw [cutAt?_eq_some_iff.mpr ⟨hnot', hrest⟩]
          rfl

namespace Conventions

variable {c : Conventions}

/-- The parts of a text before and behind its first separator. -/
def cut? (c : Conventions) (text : String) : Option (String × String) :=
  (cutAt? c.separator text.toList).map fun (front, back) => (String.ofList front, String.ofList back)

theorem cut?_eq_some_iff {text front back : String} : c.cut? text = some (front, back) ↔
    c.separator ∉ front.toList ∧ text = front ++ c.separator.toString ++ back := by
  have hlist : text = front ++ c.separator.toString ++ back ↔
      text.toList = front.toList ++ c.separator :: back.toList := by
    rw [← String.toList_inj]
    simp
  rw [hlist, ← cutAt?_eq_some_iff, cut?, Option.map_eq_some_iff]
  constructor
  · rintro ⟨⟨front', back'⟩, hcut, heq⟩
    cases heq
    rw [hcut, String.toList_ofList, String.toList_ofList]
  · intro hcut
    exact ⟨_, hcut, by simp⟩

theorem Usable.aliasName_name (hc : c.Usable) (a : Alias) :
    isAsciiIdentifier (c.aliasName a).toList :=
  isAsciiIdentifier_numbered hc.alias_name a

/-- A text is cut behind an alias exactly if it is a reference to what follows. -/
theorem Usable.cut?_iff (hc : c.Usable) {text column : String} {a : Alias} :
    c.cut? text = some (c.aliasName a, column) ↔ text = c.fieldReference a column := by
  rw [cut?_eq_some_iff, fieldReference]
  exact and_iff_right (hc.separator_notMem (hc.aliasName_name a))

theorem Usable.fieldReference_inj (hc : c.Usable) {a a' : Alias} {column column' : String}
    (h : c.fieldReference a column = c.fieldReference a' column') : a = a' ∧ column = column' := by
  have hcut := hc.cut?_iff.mpr h
  rw [hc.cut?_iff.mpr rfl, Option.some.injEq, Prod.mk.injEq] at hcut
  exact ⟨numbered_inj c.aliasStem hcut.1, hcut.2⟩

end Conventions

/-- A column that a mapping gives is written as a reference, under all conventions. -/
theorem Clause.field_spelled {m : Mapping} {f : ScopedField} {column : String}
    (h : m.column? f.descriptor = some column) : ∃ pieces, Clause.field m f = .ok pieces ∧
      ∀ (c : Conventions) i, Piece.spellFrom c i pieces = c.fieldReference f.owner column := by
  refine ⟨[.aliasOf f.owner, .separator, .name column], by rw [field, h], fun c i => ?_⟩
  rw [Conventions.fieldReference, String.append_assoc]
  simp only [Piece.spellFrom, String.append_empty]

/-- REFERENCE: under accepted conventions every alias is an ASCII identifier, and a text is cut at its
first separator into an alias and a column exactly if it is the reference to that column. So a reference
tells its alias and its column, whatever characters the column has, and the references in query texts are
of this kind. -/
theorem reference_cut_at_separator {c : Conventions} (h : c.validate = .ok ()) :
    (∀ a, isAsciiIdentifier (c.aliasName a).toList) ∧
    (∀ text a column,
      c.cut? text = some (c.aliasName a, column) ↔ text = c.fieldReference a column) ∧
    (∀ a a' column column',
      c.fieldReference a column = c.fieldReference a' column' → a = a' ∧ column = column') ∧
    ∀ (m : Mapping) (f : ScopedField) column, m.column? f.descriptor = some column →
      ∃ pieces, Clause.field m f = .ok pieces ∧
        ∀ i, c.cut? (Piece.spellFrom c i pieces) = some (c.aliasName f.owner, column) := by
  have husable := Conventions.validate_eq_ok_iff.mp h
  refine ⟨husable.aliasName_name, fun text a column => husable.cut?_iff,
    fun a a' column column' => husable.fieldReference_inj, fun m f column hcolumn => ?_⟩
  obtain ⟨pieces, hpieces, hspell⟩ := Clause.field_spelled hcolumn
  exact ⟨pieces, hpieces, fun i => husable.cut?_iff.mpr (hspell c i)⟩

/-- Accepted conventions with a stem that ends like a number, and a separator beyond ASCII. -/
def arrowed : Conventions := { aliasStem := "t0", separator := '→' }

theorem reference_cut_at_separator_arrowed :
    arrowed.validate = .ok () ∧ isAsciiIdentifier (arrowed.aliasName 12).toList ∧
    arrowed.cut? "t012→→x" = some ("t012", "→x") ∧
    ∃ pieces, Clause.field .ofModels (reportsOf 12) = .ok pieces ∧
      arrowed.cut? (Piece.spellFrom arrowed 0 pieces) = some ("t012", "reports") := by
  have hvalid : arrowed.validate = .ok () := by decide +kernel
  have halias : arrowed.aliasName 12 = "t012" := by decide
  obtain ⟨hname, hcut, -, hwritten⟩ := reference_cut_at_separator hvalid
  obtain ⟨pieces, hpieces, hspelled⟩ := hwritten .ofModels (reportsOf 12) "reports" (by decide)
  rw [← halias]
  exact ⟨hvalid, hname 12, (hcut _ _ _).mpr (by decide), pieces, hpieces, hspelled 0⟩

end EntityQuery
