import EntityQuery.Field.Key
import Mathlib.Data.List.Basic

/-!
Segments of a path. Cutting a path at its colons and joining what was cut are inverse to each other:
joining gives back any path at all, however its brackets stand, and cutting gives back the segments as
long as none of them has a cut of its own. What has been cut off at the end leaves the rest as it was,
for a cut depends on what stands before it alone.

```
a :: b<c::d> :: <e>    ⇄    a, b<c::d>, <e>
a :: b<c::d>           ⇄    a, b<c::d>
```
-/

namespace EntityQuery.Field.Key

/-- The number of open brackets after a character. -/
def depthAfter (depth : Nat) (afterHyphen : Bool) (c : Char) : Nat :=
  if c = '<' then depth + 1 else if c = '>' ∧ afterHyphen = false then depth - 1 else depth

/-- A path is cut before a character: there are two colons, and no bracket is open. -/
def CutsAt (depth : Nat) (c : Char) (rest : List Char) : Prop :=
  depth = 0 ∧ c = ':' ∧ [':'] <+: rest

theorem segmentsWithin_cut (afterHyphen : Bool) (rest : List Char) :
    segmentsWithin 0 afterHyphen (':' :: ':' :: rest) = [] :: segmentsWithin 0 false rest := by
  rw [segmentsWithin]

/-- A character before which nothing is cut is the first of the first segment. -/
theorem segmentsWithin_uncut {depth : Nat} {c : Char} {rest : List Char} (h : ¬CutsAt depth c rest)
    (afterHyphen : Bool) : segmentsWithin depth afterHyphen (c :: rest) =
      consFirst c (segmentsWithin (depthAfter depth afterHyphen c) (c = '-') rest) := by
  rw [segmentsWithin]
  · rfl
  · rintro rest' rfl rfl rfl
    exact h ⟨rfl, rfl, by simp⟩

/-- A character that is no colon is not the first of a cut, and no character within brackets is. -/
theorem not_cutsAt {depth : Nat} {c : Char} (h : depth ≠ 0 ∨ c ≠ ':') (rest : List Char) :
    ¬CutsAt depth c rest := by
  rintro ⟨hdepth, hc, -⟩
  exact h.elim (· hdepth) (· hc)

/-! ### Joining what was cut -/

theorem consFirst_ne_nil (c : Char) (segments : List (List Char)) : consFirst c segments ≠ [] := by
  cases segments <;> exact List.cons_ne_nil _ _

/-- There is always a segment, if only an empty one. -/
theorem segmentsWithin_ne_nil (depth : Nat) (afterHyphen : Bool) (path : List Char) :
    segmentsWithin depth afterHyphen path ≠ [] := by
  fun_cases segmentsWithin with
  | case1 => exact List.cons_ne_nil _ _
  | case2 => exact List.cons_ne_nil _ _
  | case3 => exact consFirst_ne_nil _ _

/-- More segments are joined with two colons in front. -/
theorem joinSegments_cons (segment : List Char) {others : List (List Char)} (h : others ≠ []) :
    joinSegments (segment :: others) = segment ++ ':' :: ':' :: joinSegments others := by
  obtain ⟨next, others, rfl⟩ := List.exists_cons_of_ne_nil h
  rfl

theorem joinSegments_consFirst (c : Char) : ∀ {segments : List (List Char)}, segments ≠ [] →
    joinSegments (consFirst c segments) = c :: joinSegments segments
  | [], h => absurd rfl h
  | [_], _ => rfl
  | _ :: _ :: _, _ => rfl

theorem joinSegments_concat (last : List Char) : ∀ {segments : List (List Char)}, segments ≠ [] →
    joinSegments (segments ++ [last]) = joinSegments segments ++ ':' :: ':' :: last
  | [], h => absurd rfl h
  | [_], _ => rfl
  | segment :: next :: others, _ => by
    rw [List.cons_append, joinSegments_cons _ (by simp), joinSegments_cons _ (by simp),
      joinSegments_concat last (List.cons_ne_nil _ _), List.append_assoc]
    rfl

/-- The segments of a path join to the path. -/
theorem joinSegments_segmentsWithin (depth : Nat) (afterHyphen : Bool) (path : List Char) :
    joinSegments (segmentsWithin depth afterHyphen path) = path := by
  fun_induction segmentsWithin with
  | case1 => rfl
  | case2 afterHyphen rest ih =>
    rw [joinSegments_cons _ (segmentsWithin_ne_nil _ _ _), ih]
    rfl
  | case3 depth afterHyphen c rest _ depth' ih =>
    rw [joinSegments_consFirst _ (segmentsWithin_ne_nil _ _ _), ih]

theorem joinSegments_segments (path : List Char) : joinSegments (segments path) = path :=
  joinSegments_segmentsWithin 0 false path

/-- The segments before the last are a beginning of the path. -/
theorem joinSegments_initial {depth : Nat} {afterHyphen : Bool} {path : List Char}
    {initial : List (List Char)} {last : List Char} (hne : initial ≠ [])
    (h : segmentsWithin depth afterHyphen path = initial ++ [last]) :
    path = joinSegments initial ++ ':' :: ':' :: last := by
  rw [← joinSegments_segmentsWithin depth afterHyphen path, h, joinSegments_concat last hne]

/-- A path without its last segment is cut as before. -/
theorem segmentsWithin_initial {depth : Nat} {afterHyphen : Bool} {path : List Char}
    {initial : List (List Char)} {last : List Char} (hne : initial ≠ [])
    (h : segmentsWithin depth afterHyphen path = initial ++ [last]) :
    segmentsWithin depth afterHyphen (joinSegments initial) = initial := by
  obtain ⟨first, others, rfl⟩ := List.exists_cons_of_ne_nil hne
  fun_induction segmentsWithin depth afterHyphen path generalizing first others with
  | case1 => simp at h
  | case2 afterHyphen rest ih =>
    obtain ⟨rfl, hrest⟩ := List.cons.inj h
    cases others with
    | nil => rfl
    | cons next others =>
      rw [joinSegments_cons _ (List.cons_ne_nil _ _), List.nil_append, segmentsWithin_cut,
        ih next others (List.cons_ne_nil _ _) hrest]
  | case3 depth afterHyphen c rest huncut depth' ih =>
    -- the first segment is `c` in front of one of what follows
    obtain ⟨second, more, hmore⟩ :=
      List.exists_cons_of_ne_nil (segmentsWithin_ne_nil depth' (decide (c = '-')) rest)
    rw [hmore] at h
    obtain ⟨rfl, rfl⟩ := List.cons.inj h
    have hrest := joinSegments_initial (List.cons_ne_nil second others) hmore
    have hcut : ¬CutsAt depth c (joinSegments (second :: others)) := by
      rintro ⟨rfl, rfl, hcolon⟩
      obtain ⟨rest', hrest'⟩ := hcolon.trans ⟨_, hrest.symm⟩
      exact huncut rest' rfl rfl hrest'.symm
    have hjoin : joinSegments ((c :: second) :: others) = c :: joinSegments (second :: others) :=
      joinSegments_consFirst c (List.cons_ne_nil second others)
    have ih := ih second others (List.cons_ne_nil _ _) hmore
    rw [hjoin, segmentsWithin_uncut hcut]
    exact congrArg (consFirst c) ih

/-! ### Cutting what was joined -/

/-- A text in front of the first of some segments. -/
def consText (text : List Char) (segments : List (List Char)) : List (List Char) :=
  text.foldr consFirst segments

theorem consText_cons (text first : List Char) (others : List (List Char)) :
    consText text (first :: others) = (text ++ first) :: others := by
  induction text with
  | nil => rfl
  | cons c text ih => rw [consText, List.foldr_cons, ← consText, ih, consFirst, List.cons_append]

theorem consText_append (text more : List Char) (segments : List (List Char)) :
    consText (text ++ more) segments = consText text (consText more segments) :=
  List.foldr_append

/-- A text that may stand in a path: nothing in it is cut, it leaves no bracket open and closes none
that stands before it, and it does not end in a hyphen. -/
def IsUncut (text : List Char) : Prop :=
  ∀ rest, segmentsWithin 0 false (text ++ rest) = consText text (segmentsWithin 0 false rest)

theorem IsUncut.append {text more : List Char} (htext : IsUncut text) (hmore : IsUncut more) :
    IsUncut (text ++ more) := by
  intro rest
  rw [List.append_assoc, htext, hmore, consText_append]

/-- A text without colons, brackets and hyphens is uncut. -/
theorem isUncut_of_plain : ∀ {text : List Char},
    (∀ c ∈ text, c ≠ ':' ∧ c ≠ '<' ∧ c ≠ '>' ∧ c ≠ '-') → IsUncut text
  | [], _ => fun _ => rfl
  | c :: text, h => fun rest => by
    obtain ⟨hcolon, hopen, hclose, hhyphen⟩ := h c List.mem_cons_self
    rw [List.cons_append, segmentsWithin_uncut (not_cutsAt (.inr hcolon) _), depthAfter, if_neg hopen,
      if_neg fun hc => hclose hc.1, decide_eq_false hhyphen,
      isUncut_of_plain (fun x hx => h x (List.mem_cons_of_mem _ hx)) rest]
    rfl

/-- Joined uncut texts are cut into these, whatever last segment follows. -/
theorem segments_joinSegments {last : List Char} (hlast : segments last = [last]) :
    ∀ {texts : List (List Char)}, (∀ text ∈ texts, IsUncut text) →
      segments (joinSegments (texts ++ [last])) = texts ++ [last]
  | [], _ => hlast
  | text :: texts, h => by
    rw [List.cons_append, joinSegments_cons _ (by simp), segments, h text List.mem_cons_self,
      segmentsWithin_cut, ← segments,
      segments_joinSegments hlast fun x hx => h x (List.mem_cons_of_mem _ hx), consText_cons,
      List.append_nil]

/-- An uncut text alone is one segment. -/
theorem IsUncut.segments {text : List Char} (h : IsUncut text) : segments text = [text] := by
  have hcut := h []
  rwa [List.append_nil, segmentsWithin, consText_cons, List.append_nil] at hcut

end EntityQuery.Field.Key
