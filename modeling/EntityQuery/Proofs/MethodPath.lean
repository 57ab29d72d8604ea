import EntityQuery.Proofs.Recovery
import EntityQuery.Text.Word

/-!
Paths of methods. The type of a method of a plain type is named by the words of the type's path and
the method's own, with two colons between them. Reading it cuts it there again, so the key is the type
and the method; the only thing that can be wrong with it is the method's word, for a program's words
have more characters than identifiers do.

```
app::model::Person::last_name     app::model::Person, last_name
app::model::Person::a·b           no method
```
-/

namespace EntityQuery.Field

open EntityQuery.Text

/-- A text is a word of a program. -/
def IsWord (s : List Char) : Prop := isName opensWord continuesWord s

instance (s : List Char) : Decidable (IsWord s) := inferInstanceAs (Decidable (_ = true))

/-- A text is a path of words, as the types have that are declared in a module. -/
def IsTypePath (s : String) : Prop :=
  ∃ segments, segments ≠ [] ∧ (∀ w ∈ segments, IsWord w) ∧ s.toList = Key.joinSegments segments

/-- The accessor that a method with the given name is. -/
def Accessor.ofMethod (typeName method : String) : Accessor := .path (typeName ++ "::" ++ method)

/-! ### The characters of a path -/

/-- A character may stand in a word. -/
def InWord (c : Char) : Prop := opensWord c ∨ continuesWord c

/-- A character may stand in a path of words. -/
def InPath (c : Char) : Prop := InWord c ∨ c = ':'

instance (c : Char) : Decidable (InWord c) := inferInstanceAs (Decidable (_ ∨ _))

instance (c : Char) : Decidable (InPath c) := inferInstanceAs (Decidable (_ ∨ _))

theorem IsWord.inWord {s : List Char} (h : IsWord s) : ∀ c ∈ s, InWord c := by
  cases s with
  | nil => cases h
  | cons first rest =>
    obtain ⟨hfirst, hrest⟩ : opensWord first ∧ ∀ c ∈ rest, continuesWord c := by
      simpa [IsWord, isName] using h
    intro c hc
    rcases List.mem_cons.mp hc with rfl | hc
    · exact .inl hfirst
    · exact .inr (hrest c hc)

/-- No word has a character by which paths are cut. -/
theorem InWord.plain {c : Char} (h : InWord c) : c ≠ ':' ∧ c ≠ '<' ∧ c ≠ '>' ∧ c ≠ '-' := by
  refine ⟨?_, ?_, ?_, ?_⟩ <;> rintro rfl <;> exact absurd h (by decide)

/-- No word has a blank. -/
theorem InWord.not_isBlank {c : Char} (h : InWord c) : isBlank c = false := by
  unfold InWord opensWord continuesWord at h
  by_cases hascii : c.toNat < 0x80
  · refine not_isBlank_of_range ?_
    rw [if_pos hascii, if_pos hascii] at h
    rcases h with h | h <;> rcases Bool.or_eq_true_iff.mp h with h | h
    · have hletter := isAlpha_range h
      omega
    · obtain rfl : c = '_' := of_decide_eq_true h
      decide
    · exact isAlphanum_range h
    · obtain rfl : c = '_' := of_decide_eq_true h
      decide
  · rw [if_neg hascii, if_neg hascii] at h
    rcases h with h | h
    · exact CharClass.has_eq_false (by decide +kernel) h
    · exact CharClass.has_eq_false (by decide +kernel) h

/-- No path has a blank. -/
theorem InPath.not_isBlank {c : Char} (h : InPath c) : isBlank c = false := by
  rcases h with h | rfl
  · exact h.not_isBlank
  · decide

namespace Key

theorem joinSegments_inPath : ∀ {ws : List (List Char)}, (∀ w ∈ ws, ∀ c ∈ w, InWord c) →
    ∀ c ∈ joinSegments ws, InPath c
  | [], _, c, hc => by cases hc
  | [w], h, c, hc => .inl (h w (List.mem_singleton_self w) c hc)
  | w :: v :: ws, h, c, hc => by
    change c ∈ w ++ ':' :: ':' :: joinSegments (v :: ws) at hc
    simp only [List.mem_append, List.mem_cons] at hc
    rcases hc with hc | rfl | rfl | hc
    · exact .inl (h w (by simp) c hc)
    · exact .inr rfl
    · exact .inr rfl
    · exact joinSegments_inPath (fun x hx => h x (List.mem_cons_of_mem _ hx)) c hc

/-! ### The key of a method -/

/-- The path of a method comes down to the type and the method if that is an identifier, and names no
method otherwise. -/
theorem ofPath_method {typeName method : String} (htype : IsTypePath typeName)
    (hmethod : IsWord method.toList) : ofPath (typeName ++ "::" ++ method) =
      if isIdentifier method.toList then .ok ⟨typeName, method⟩
      else .error (.notReducible (typeName ++ "::" ++ method) .noMethod) := by
  obtain ⟨ws, hne, hws, htype⟩ := htype
  have hall : ∀ w ∈ ws ++ [method.toList], ∀ c ∈ w, InWord c := by
    intro w hw
    rcases List.mem_append.mp hw with hw | hw
    · exact (hws w hw).inWord
    · rw [List.mem_singleton.mp hw]
      exact hmethod.inWord
  have hpath : (typeName ++ "::" ++ method).toList = joinSegments (ws ++ [method.toList]) := by
    rw [joinSegments_concat _ hne, ← htype, String.toList_append, String.toList_append,
      List.append_assoc]
    rfl
  have hin := joinSegments_inPath hall
  have htrim : trim (joinSegments (ws ++ [method.toList])) = joinSegments (ws ++ [method.toList]) :=
    Trimmed.trim_eq ⟨fun c hc => (hin c (List.mem_of_head? hc)).not_isBlank,
      fun c hc => (hin c (List.mem_of_getLast? hc)).not_isBlank⟩
  -- a closure or a pointer has a character in its mark that no path has
  have hunmarked : Unmarked (joinSegments (ws ++ [method.toList])) := by
    constructor
    · intro hmark
      exact absurd (hin '\x7b' (hmark.subset (by decide))) (by decide)
    · intro mark hmark hfront
      have hout : pointerMarks.all (·.any fun c => ¬InPath c) := by decide
      obtain ⟨c, hc, hout⟩ := List.any_eq_true.mp (List.all_eq_true.mp hout mark hmark)
      exact of_decide_eq_true hout (hin c (hfront.subset hc))
  obtain ⟨hclosure, hpointer⟩ := unmarked_iff.mp hunmarked
  have huncut : ∀ w ∈ ws ++ [method.toList], IsUncut w := fun w hw =>
    isUncut_of_plain fun c hc => (hall w hw c hc).plain
  have hsegments : segments (joinSegments (ws ++ [method.toList])) = ws ++ [method.toList] :=
    segments_joinSegments (huncut _ (by simp)).segments fun w hw => huncut w (List.mem_append_left _ hw)
  have harguments : dropArguments (ws ++ [method.toList]).reverse = method.toList :: ws.reverse := by
    rw [List.reverse_append, List.reverse_singleton, List.singleton_append]
    refine dropArguments_cons (fun hbracket => ?_) _
    exact absurd (hmethod.inWord '<' (hbracket.subset (by decide))) (by decide)
  rw [ofPath, hpath, htrim, ofTrimmed, if_neg hclosure, if_neg hpointer, hsegments, harguments]
  cases hreverse : ws.reverse with
  | nil => exact absurd (List.reverse_eq_nil_iff.mp hreverse) hne
  | cons last others =>
    dsimp only
    rw [← hreverse, List.reverse_reverse, ← htype]
    split
    · simp [Except.mapError]
    · rfl

end Key

end EntityQuery.Field
