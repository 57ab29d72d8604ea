import EntityQuery.Proofs.Lookup
import EntityQuery.Proofs.Recovery

/-!
The grammar of method paths. A type is named by segments, each a name that may have type arguments, or
a type in brackets; a method of it by the type's path and its own name. Brackets have to match, but the
one of an arrow is none.

```
app::Pair<fn(u8) -> u8>::name       <app::Person as app::Named<u8>>::name::<[u8; 2]>
```

Every such path has a key, the one that declaring the method on the type gives, for no cut is made
within brackets and all brackets are closed where the method's name begins.
-/

namespace EntityQuery.Field.Key

open EntityQuery.Text

/-- A text in which every bracket matches another. -/
inductive Balanced : List Char → Prop
  | nil : Balanced []
  | plain {c : Char} {rest : List Char} :
      c ≠ '<' → c ≠ '>' → Balanced rest → Balanced (c :: rest)
  /-- The bracket of an arrow is none. -/
  | arrow {rest : List Char} : Balanced rest → Balanced ('-' :: '>' :: rest)
  | brackets {inner rest : List Char} :
      Balanced inner → inner.getLast? ≠ some '-' → Balanced rest →
      Balanced ('<' :: (inner ++ '>' :: rest))

/-- A pair of brackets and what stands between them. -/
def IsBracketed (s : List Char) : Prop :=
  ∃ inner, Balanced inner ∧ inner.getLast? ≠ some '-' ∧ s = '<' :: (inner ++ ['>'])

/-- A segment of the path of a type. -/
inductive IsSegment : List Char → Prop
  | name {name : List Char} : isIdentifier name → IsSegment name
  /-- A name with type arguments. -/
  | applied {name arguments : List Char} :
      isIdentifier name → IsBracketed arguments → IsSegment (name ++ arguments)
  /-- A type in brackets, as it stands where a trait qualifies it. -/
  | qualified {type : List Char} : IsBracketed type → IsSegment type

/-- A text is the path of a type that may have methods. -/
structure IsDeclaring (s : List Char) : Prop where
  path : ∃ segments, segments ≠ [] ∧ (∀ segment ∈ segments, IsSegment segment) ∧
    s = joinSegments segments
  unmarked : Unmarked s

/-- Type arguments behind the name of a method, or nothing. -/
inductive IsSuffix : List Char → Prop
  | none : IsSuffix []
  | arguments {inner : List Char} :
      Balanced inner → ¬closureMark <:+: inner → IsSuffix (':' :: ':' :: '<' :: (inner ++ ['>']))

/-- A text is the path of a method of a type, perhaps with type arguments, perhaps among blanks. -/
def IsMethodPath (path declaring method : List Char) : Prop :=
  ∃ before suffix after, (∀ c ∈ before, isBlank c) ∧ (∀ c ∈ after, isBlank c) ∧ IsSuffix suffix ∧
    path = before ++ (declaring ++ ':' :: ':' :: (method ++ suffix)) ++ after

/-! ### Balanced texts -/

theorem balanced_of_plain : ∀ {s : List Char}, '<' ∉ s → '>' ∉ s → Balanced s
  | [], _, _ => .nil
  | _ :: _, hopen, hclose =>
    .plain (List.ne_of_not_mem_cons hopen).symm (List.ne_of_not_mem_cons hclose).symm
      (balanced_of_plain (List.not_mem_of_not_mem_cons hopen) (List.not_mem_of_not_mem_cons hclose))

theorem Balanced.append {s t : List Char} (hs : Balanced s) (ht : Balanced t) : Balanced (s ++ t) := by
  induction hs with
  | nil => exact ht
  | plain hopen hclose _ ih => exact .plain hopen hclose ih
  | arrow _ ih => exact .arrow ih
  | brackets hinner hend _ _ ih =>
    rw [List.cons_append, List.append_assoc, List.cons_append]
    exact .brackets hinner hend ih

/-- Whether a hyphen stands at the end of a text, or before it if it is empty. -/
def hyphenAfter (before : Bool) (s : List Char) : Bool :=
  s.foldl (fun _ c => decide (c = '-')) before

theorem hyphenAfter_eq_false {s : List Char} (h : s.getLast? ≠ some '-') :
    hyphenAfter false s = false := by
  rcases List.eq_nil_or_concat s with rfl | ⟨front, c, rfl⟩
  · rfl
  · rw [List.concat_eq_append, List.getLast?_concat] at h
    rw [hyphenAfter, List.concat_eq_append, List.foldl_append, List.foldl_cons, List.foldl_nil]
    exact decide_eq_false fun hc => h (congrArg some hc)

/-- Within brackets, nothing in the text is cut, and afterwards as many brackets are open. -/
def Passes (s : List Char) : Prop :=
  ∀ depth afterHyphen rest, segmentsWithin (depth + 1) afterHyphen (s ++ rest) =
    consText s (segmentsWithin (depth + 1) (hyphenAfter afterHyphen s) rest)

/-- A pair of brackets is passed wherever it stands. -/
theorem Passes.brackets {inner : List Char} (h : Passes inner) (hend : inner.getLast? ≠ some '-')
    (depth : Nat) (afterHyphen : Bool) (rest : List Char) :
    segmentsWithin depth afterHyphen ('<' :: (inner ++ '>' :: rest)) =
      consText ('<' :: (inner ++ ['>'])) (segmentsWithin depth false rest) := by
  have hopen : segmentsWithin depth afterHyphen ('<' :: (inner ++ '>' :: rest)) =
      consFirst '<' (segmentsWithin (depth + 1) false (inner ++ '>' :: rest)) :=
    segmentsWithin_uncut (not_cutsAt (.inr (by decide)) _) afterHyphen
  have hclose : segmentsWithin (depth + 1) false ('>' :: rest) =
      consFirst '>' (segmentsWithin depth false rest) :=
    segmentsWithin_uncut (not_cutsAt (.inr (by decide)) _) false
  rw [hopen, h, hyphenAfter_eq_false hend, hclose]
  exact congrArg (consFirst '<') (consText_append inner ['>'] _).symm

theorem Balanced.passes {s : List Char} (h : Balanced s) : Passes s := by
  induction h with
  | nil => exact fun _ _ _ => rfl
  | @plain c rest hopen hclose _ ih =>
    intro depth afterHyphen after
    have hfirst : segmentsWithin (depth + 1) afterHyphen (c :: (rest ++ after)) =
        consFirst c (segmentsWithin (depth + 1) (c = '-') (rest ++ after)) := by
      rw [segmentsWithin_uncut (not_cutsAt (.inl (Nat.succ_ne_zero depth)) _), depthAfter, if_neg hopen,
        if_neg fun hc => hclose hc.1]
    rw [List.cons_append, hfirst, ih]
    rfl
  | @arrow rest _ ih =>
    intro depth afterHyphen after
    have hcut : ∀ c more, ¬CutsAt (depth + 1) c more :=
      fun c more => not_cutsAt (.inl (Nat.succ_ne_zero depth)) more
    have hfirst : segmentsWithin (depth + 1) afterHyphen ('-' :: '>' :: (rest ++ after)) =
        consFirst '-' (consFirst '>' (segmentsWithin (depth + 1) false (rest ++ after))) := by
      rw [segmentsWithin_uncut (hcut _ _)]
      exact congrArg (consFirst '-') (segmentsWithin_uncut (hcut _ _) true)
    rw [List.cons_append, List.cons_append, hfirst, ih]
    rfl
  | @brackets inner rest _ hend _ ihinner ih =>
    intro depth afterHyphen after
    have hhyphen : hyphenAfter afterHyphen ('<' :: (inner ++ '>' :: rest)) =
        hyphenAfter false rest := by
      rw [hyphenAfter, List.foldl_cons, List.foldl_append, List.foldl_cons]
      rfl
    have hsplit : '<' :: (inner ++ '>' :: rest) = ('<' :: (inner ++ ['>'])) ++ rest := by
      rw [List.cons_append, List.append_assoc, List.singleton_append]
    rw [List.cons_append, List.append_assoc, List.cons_append, ihinner.brackets hend, ih, hhyphen,
      hsplit, consText_append]

/-! ### Segments -/

theorem isUncut_identifier {name : List Char} (h : isIdentifier name) : IsUncut name :=
  isUncut_of_plain fun c hc =>
    have hplain := (inIdentifier h c hc).plain
    ⟨hplain.1, hplain.2.1, hplain.2.2.1, hplain.2.2.2.1⟩

theorem IsBracketed.isUncut {s : List Char} (h : IsBracketed s) : IsUncut s := by
  obtain ⟨inner, hinner, hend, rfl⟩ := h
  intro rest
  rw [List.cons_append, List.append_assoc, List.singleton_append, hinner.passes.brackets hend]

theorem IsSegment.isUncut {s : List Char} (h : IsSegment s) : IsUncut s := by
  cases h with
  | name hname => exact isUncut_identifier hname
  | applied hname harguments => exact (isUncut_identifier hname).append harguments.isUncut
  | qualified htype => exact htype.isUncut

/-- Type arguments are one segment, even if a hyphen before the last bracket leaves that open. -/
theorem segments_arguments {inner : List Char} (h : Balanced inner) :
    segments ('<' :: (inner ++ ['>'])) = ['<' :: (inner ++ ['>'])] := by
  have hopen : segments ('<' :: (inner ++ ['>'])) =
      consFirst '<' (segmentsWithin 1 false (inner ++ ['>'])) :=
    segmentsWithin_uncut (not_cutsAt (.inr (by decide)) _) false
  have hclose : ∀ afterHyphen, segmentsWithin 1 afterHyphen ['>'] = [['>']] := fun afterHyphen =>
    segmentsWithin_uncut (not_cutsAt (.inr (by decide)) _) afterHyphen
  rw [hopen, h.passes, hclose, consText_cons]
  rfl

/-- A segment begins with a letter, an underscore or a bracket. -/
theorem IsSegment.head {s : List Char} (h : IsSegment s) : ∃ c ∈ s.head?, isBlank c = false := by
  have hname : ∀ {name}, isIdentifier name → ∃ c ∈ name.head?, isBlank c = false := by
    intro name hname
    cases name with
    | nil => cases hname
    | cons c rest => exact ⟨c, rfl, (inIdentifier hname c List.mem_cons_self).not_isBlank⟩
  have hbracketed : ∀ {s}, IsBracketed s → ∃ c ∈ s.head?, isBlank c = false := by
    rintro s ⟨inner, -, -, rfl⟩
    exact ⟨'<', rfl, by decide⟩
  cases h with
  | name h => exact hname h
  | @applied name arguments h _ =>
    obtain ⟨c, hc, hblank⟩ := hname h
    exact ⟨c, head?_of_beginning (List.prefix_append name arguments) c hc, hblank⟩
  | qualified h => exact hbracketed h

theorem IsDeclaring.head {s : List Char} (h : IsDeclaring s) : ∃ c ∈ s.head?, isBlank c = false := by
  obtain ⟨types, hne, htypes, rfl⟩ := h.path
  obtain ⟨first, others, rfl⟩ := List.exists_cons_of_ne_nil hne
  obtain ⟨c, hc, hblank⟩ := (htypes first List.mem_cons_self).head
  have hfront : first <+: joinSegments (first :: others) := by
    cases others with
    | nil => exact List.prefix_rfl
    | cons next others => exact List.prefix_append _ _
  exact ⟨c, head?_of_beginning hfront c hc, hblank⟩

/-! ### The marks of other paths -/

/-- A part without a certain character lies on one side of it. -/
theorem prefix_of_not_mem {c : Char} {part after : List Char} (hc : c ∉ part) (before : List Char)
    (h : part <+: before ++ c :: after) : part <+: before := by
  have hcut : before ++ [c] <+: before ++ c :: after :=
    ⟨after, by rw [List.append_assoc, List.singleton_append]⟩
  rcases List.prefix_or_prefix_of_prefix h hcut with hshort | hlong
  · rcases List.prefix_concat_iff.mp hshort with rfl | hshort
    · exact absurd (by simp) hc
    · exact hshort
  · exact absurd (hlong.subset (by simp)) hc

theorem infix_of_not_mem {c : Char} {part after : List Char} (hc : c ∉ part) :
    ∀ before : List Char, part <:+: before ++ c :: after → part <:+: before ∨ part <:+: after
  | [], h => by
    rcases List.infix_cons_iff.mp h with hfront | hafter
    · exact .inl (prefix_of_not_mem hc [] hfront).isInfix
    · exact .inr hafter
  | d :: before, h => by
    rcases List.infix_cons_iff.mp h with hfront | hrest
    · exact .inl (prefix_of_not_mem hc (d :: before) hfront).isInfix
    · rcases infix_of_not_mem hc before hrest with hbefore | hafter
      · exact .inl (hbefore.trans (List.suffix_cons d before).isInfix)
      · exact .inr hafter

theorem closureMark_not_infix_identifier {name : List Char} (h : isIdentifier name) :
    ¬closureMark <:+: name := by
  intro hmark
  have hbrace : '\x7b' ∈ name := hmark.subset (by decide)
  exact (inIdentifier h _ hbrace).plain.2.2.2.2 rfl

/-- The path of a method without its type has no closure's mark. -/
theorem closureMark_not_infix_method {method suffix : List Char} (hmethod : isIdentifier method)
    (hsuffix : IsSuffix suffix) : ¬closureMark <:+: method ++ suffix := by
  intro hmark
  cases hsuffix with
  | none =>
    rw [List.append_nil] at hmark
    exact closureMark_not_infix_identifier hmethod hmark
  | @arguments inner _ hinner =>
    rcases infix_of_not_mem (by decide) method hmark with hmark | hmark
    · exact closureMark_not_infix_identifier hmethod hmark
    · rcases infix_of_not_mem (by decide) [':'] hmark with hmark | hmark
      · exact absurd hmark (by decide)
      · rcases infix_of_not_mem (by decide) inner hmark with hmark | hmark
        · exact hinner hmark
        · exact absurd hmark (by decide)

/-- What is put behind the path of a type for a method of it marks the path no more than it was. -/
theorem unmarked_method {declaring method suffix : List Char} (h : Unmarked declaring)
    (hmethod : isIdentifier method) (hsuffix : IsSuffix suffix) :
    Unmarked (declaring ++ ':' :: ':' :: (method ++ suffix)) where
  pointer mark hmark hfront := by
    have hcolon : ∀ mark ∈ pointerMarks, ':' ∉ mark := by decide
    exact h.pointer mark hmark (prefix_of_not_mem (hcolon mark hmark) declaring hfront)
  closure hmark := by
    rcases infix_of_not_mem (by decide) declaring hmark with hmark | hmark
    · exact h.closure hmark
    · rcases infix_of_not_mem (by decide) [] hmark with hmark | hmark
      · exact absurd hmark (by decide)
      · exact closureMark_not_infix_method hmethod hsuffix hmark

/-! ### The path of a method -/

section

variable {declaring method suffix : List Char}

/-- The segments of a method's path are those of the type, the method and its type arguments. -/
theorem segments_method {types : List (List Char)} (htypes : ∀ s ∈ types, IsSegment s)
    (hne : types ≠ []) (hmethod : isIdentifier method) (hsuffix : IsSuffix suffix) :
    ∃ turbofish, IsTurbofish turbofish ∧
      segments (joinSegments types ++ ':' :: ':' :: (method ++ suffix)) =
        types ++ method :: turbofish := by
  have huncut : ∀ s ∈ types ++ [method], IsUncut s := by
    intro s hs
    rcases List.mem_append.mp hs with hs | hs
    · exact (htypes s hs).isUncut
    · rw [List.mem_singleton.mp hs]
      exact isUncut_identifier hmethod
  cases hsuffix with
  | none =>
    refine ⟨[], .inl rfl, ?_⟩
    rw [List.append_nil, ← joinSegments_concat method hne]
    exact segments_joinSegments (isUncut_identifier hmethod).segments
      fun s hs => huncut s (List.mem_append_left _ hs)
  | @arguments inner hinner _ =>
    refine ⟨['<' :: (inner ++ ['>'])], .inr ⟨_, rfl⟩, ?_⟩
    have hjoin : joinSegments types ++ ':' :: ':' :: (method ++ ':' :: ':' :: '<' :: (inner ++ ['>'])) =
        joinSegments (types ++ [method] ++ ['<' :: (inner ++ ['>'])]) := by
      rw [joinSegments_concat _ (by simp), joinSegments_concat _ hne, List.append_assoc]
      rfl
    rw [hjoin, segments_joinSegments (segments_arguments hinner) huncut, List.append_assoc,
      List.singleton_append]

/-- The path of a method has no blanks at its ends. -/
theorem trimmed_method (h : IsDeclaring declaring) (hmethod : isIdentifier method)
    (hsuffix : IsSuffix suffix) : Trimmed (declaring ++ ':' :: ':' :: (method ++ suffix)) where
  head c hc := by
    obtain ⟨d, hd, hblank⟩ := h.head
    rw [Option.some.inj (hc.symm.trans (head?_of_beginning (List.prefix_append _ _) d hd))]
    exact hblank
  last := by
    cases hsuffix with
    | none =>
      have hsplit : declaring ++ ':' :: ':' :: (method ++ []) = (declaring ++ [':', ':']) ++ method := by
        rw [List.append_nil, List.append_assoc]
        rfl
      rw [hsplit]
      exact not_isBlank_last hmethod _
    | @arguments inner =>
      have hsplit : declaring ++ ':' :: ':' :: (method ++ ':' :: ':' :: '<' :: (inner ++ ['>'])) =
          (declaring ++ ':' :: ':' :: (method ++ ':' :: ':' :: '<' :: inner)) ++ ['>'] := by
        simp only [List.append_assoc, List.cons_append]
      intro c hc
      rw [hsplit, List.getLast?_concat] at hc
      rw [← Option.some.inj hc]
      decide

/-- The path of a method is read as the type and the method. -/
theorem reads_method (h : IsDeclaring declaring) (hmethod : isIdentifier method)
    (hsuffix : IsSuffix suffix) : ∃ turbofish, Reads (declaring ++ ':' :: ':' :: (method ++ suffix))
      ⟨String.ofList declaring, String.ofList method⟩ turbofish := by
  obtain ⟨types, hne, htypes, hdeclaring⟩ := h.path
  obtain ⟨turbofish, hturbofish, hsegments⟩ := segments_method htypes hne hmethod hsuffix
  refine ⟨turbofish, unmarked_method h.unmarked hmethod hsuffix, ⟨types, hne, ?_, ?_⟩, ?_, hturbofish⟩
  · rw [String.toList_ofList, hdeclaring]
  · rw [String.toList_ofList, hdeclaring, hsegments]
  · rwa [String.toList_ofList]

end

/-- The key of a method's path is the type and the method, whatever stands around and behind it. -/
theorem ofPath_isMethodPath {declaring method path : String} (hdeclaring : IsDeclaring declaring.toList)
    (hmethod : isIdentifier method.toList)
    (hpath : IsMethodPath path.toList declaring.toList method.toList) :
    ofPath path = .ok ⟨declaring, method⟩ := by
  obtain ⟨before, suffix, after, hbefore, hafter, hsuffix, hpath⟩ := hpath
  obtain ⟨turbofish, hreads⟩ := reads_method hdeclaring hmethod hsuffix
  rw [String.ofList_toList, String.ofList_toList] at hreads
  refine ofPath_eq_ok_iff.mpr ⟨turbofish, ?_⟩
  rw [hpath, trim_surrounded hbefore hafter (by simp) (trimmed_method hdeclaring hmethod hsuffix)]
  exact hreads

/-- A method can be declared on a type by its name. -/
theorem ofDeclared_isDeclaring {declaring method : String} (hdeclaring : IsDeclaring declaring.toList)
    (hmethod : isIdentifier method.toList) : ofDeclared declaring method = .ok ⟨declaring, method⟩ := by
  have hne : declaring.isEmpty = false := by
    obtain ⟨c, hc, -⟩ := hdeclaring.head
    refine Bool.eq_false_iff.mpr fun hempty => ?_
    rw [String.isEmpty_iff.mp hempty] at hc
    cases hc
  rw [ofDeclared, hne, hmethod]
  rfl

end EntityQuery.Field.Key

namespace EntityQuery

open EntityQuery.Text EntityQuery.Field

/-- METHOD PATHS: every well-formed path of a method has the key that declaring the method by name has, so
that both lead to one digest, and to the same in any store. -/
theorem method_path_agrees_with_declaration {declaring method path : String}
    (hdeclaring : Key.IsDeclaring declaring.toList) (hmethod : isIdentifier method.toList)
    (hpath : Key.IsMethodPath path.toList declaring.toList method.toList) :
    Key.ofPath path = .ok ⟨declaring, method⟩ ∧
    Key.ofDeclared declaring method = .ok ⟨declaring, method⟩ ∧
    ∀ e : Entity, e.typeName = declaring →
      (Lookup.mk e (.path path)).key = (Lookup.mk e (.declared method)).key ∧
      (Lookup.mk e (.path path)).fingerprint? = some (fingerprint ⟨declaring, method⟩ declaring) ∧
      (Lookup.mk e (.declared method)).fingerprint? =
        some (fingerprint ⟨declaring, method⟩ declaring) ∧
      ∀ store journal, Field.resolve e (.path path) store journal =
        Field.resolve e (.declared method) store journal := by
  have hread := Key.ofPath_isMethodPath hdeclaring hmethod hpath
  have hdeclared := Key.ofDeclared_isDeclaring hdeclaring hmethod
  refine ⟨hread, hdeclared, ?_⟩
  rintro e rfl
  have hkey : (Accessor.path path).key e.typeName = .ok ⟨e.typeName, method⟩ := hread
  have hkey' : (Accessor.declared method).key e.typeName = .ok ⟨e.typeName, method⟩ := hdeclared
  refine ⟨hkey.trans hkey'.symm, ?_, ?_, fun store journal => ?_⟩
  · rw [Lookup.fingerprint?, Lookup.key, hkey]
    rfl
  · rw [Lookup.fingerprint?, Lookup.key, hkey']
    rfl
  · rw [Field.resolve, Field.resolve, hkey, hkey']

/-- A type qualified by a trait, with an arrow between its brackets. -/
def qualifiedPair : String := "<app::Pair<fn(u8) -> u8> as app::Named>"

theorem isDeclaring_qualifiedPair : Key.IsDeclaring qualifiedPair.toList where
  path := by
    have harrow : Key.Balanced ("fn(u8) ".toList ++ '-' :: '>' :: " u8".toList) :=
      (Key.balanced_of_plain (by decide) (by decide)).append
        (.arrow (Key.balanced_of_plain (by decide) (by decide)))
    have hpair : Key.Balanced ("app::Pair".toList ++
        '<' :: ("fn(u8) ".toList ++ '-' :: '>' :: " u8".toList ++ '>' :: " as app::Named".toList)) :=
      (Key.balanced_of_plain (by decide) (by decide)).append
        (.brackets harrow (by decide) (Key.balanced_of_plain (by decide) (by decide)))
    exact ⟨[qualifiedPair.toList], by simp,
      by simpa using .qualified ⟨_, hpair, by decide, by decide⟩, rfl⟩
  unmarked := Key.unmarked_iff.mpr ⟨by decide, by decide⟩

theorem method_path_agrees_with_declaration_qualified :
    Key.IsDeclaring qualifiedPair.toList ∧ isIdentifier "größe".toList ∧
    Key.IsMethodPath "\t<app::Pair<fn(u8) -> u8> as app::Named>::größe::<[u8; 2]>\n".toList
      qualifiedPair.toList "größe".toList ∧
    Key.ofPath "\t<app::Pair<fn(u8) -> u8> as app::Named>::größe::<[u8; 2]>\n" =
      .ok ⟨qualifiedPair, "größe"⟩ := by
  have hmethod : isIdentifier "größe".toList := by decide +kernel
  have hpath : Key.IsMethodPath "\t<app::Pair<fn(u8) -> u8> as app::Named>::größe::<[u8; 2]>\n".toList
      qualifiedPair.toList "größe".toList := by
    have hclosure : ¬Key.closureMark <:+: "[u8; 2]".toList := fun hmark =>
      absurd (Key.occursIn_iff.mpr hmark) (by decide)
    exact ⟨['\t'], _, ['\n'], List.forall_mem_singleton.mpr (by decide),
      List.forall_mem_singleton.mpr (by decide),
      .arguments (Key.balanced_of_plain (by decide) (by decide)) hclosure, by decide +kernel⟩
  exact ⟨isDeclaring_qualifiedPair, hmethod, hpath,
    (method_path_agrees_with_declaration isDeclaring_qualifiedPair hmethod hpath).1⟩

end EntityQuery
