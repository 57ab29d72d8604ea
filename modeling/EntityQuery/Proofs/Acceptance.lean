import EntityQuery.Proofs.Entries

/-!
Acceptance: which declarations a model is derived for, and what is reported of the others. A declaration
is read from the front, and each thing that is read has to meet a requirement. The first that is
violated is reported, and what is declared after it is not looked at.

```
#[entity(table = "t")] struct Visit { #[entity(temporal = "day", skip)] at: Date, … }
no parameters, a struct, table = "t"; then of `at`: temporal = "day", skip
```

A temporal kind is required of a field once all its items have been read: only the label that is given
last counts, and only if no item says that the field is skipped.
-/

namespace EntityQuery.Declaration

/-! ### What is accepted -/

/-- What entity attributes may hold. -/
structure Vocabulary where
  /-- The paths that come with a text. -/
  texts : List String
  /-- The paths that stand alone. -/
  flags : List String
  /-- The error for any other path. -/
  unknown : DeclarationError
deriving DecidableEq

/-- What the attributes of a declared item may hold. -/
def Vocabulary.ofEntity : Vocabulary := ⟨["name", "table"], [], .unknownEntityItem⟩

/-- What those of a field may hold. -/
def Vocabulary.ofField : Vocabulary := ⟨["column", "temporal"], ["skip"], .unknownFieldItem⟩

/-- An item is well formed. -/
inductive Vocabulary.Admits (v : Vocabulary) : Item → Prop where
  | text {path : String} (h : path ∈ v.texts) (s : String) : v.Admits (.entry path (.text s))
  | flag {path : String} (h : path ∈ v.flags) : v.Admits (.entry path .absent)

/-- An attribute is a list of well-formed items, unless it does not concern entities. -/
def Attribute.WellFormed (v : Vocabulary) : Attribute → Prop
  | .entity items => ∀ i ∈ items, v.Admits i
  | .bare => False
  | .foreign => True

/-- The labels of temporal kinds. -/
def temporalLabels : List String := ["date", "time", "timestamp"]

/-- A field is accepted: its attributes are well formed, even if it is skipped, and unless it is, the
label that is given last is that of a temporal kind. -/
structure FieldDeclaration.Acceptable (f : FieldDeclaration) : Prop where
  attributes : ∀ a ∈ f.attributes, a.WellFormed .ofField
  temporal : ¬f.Skipped → ∀ label, lastText? "temporal" f.items = some label → label ∈ temporalLabels

/-! ### The requirements in order -/

/-- Something that is required of a declaration. -/
inductive Requirement where
  /-- There are no generic parameters. -/
  | plain (generic : Bool)
  /-- It is a struct with named fields. -/
  | struct (kind : ItemKind)
  /-- An item of an attribute is well formed. -/
  | item (v : Vocabulary) (i : Item)
  /-- A label is that of a temporal kind. -/
  | label (s : String)
deriving DecidableEq

/-- The error for a value that is no text. -/
def ItemValue.violation? : ItemValue → Option DeclarationError
  | .text _ => none
  | .absent | .other => some .malformed

/-- The error for an item that is not well formed. -/
def Vocabulary.violation? (v : Vocabulary) : Item → Option DeclarationError
  | .malformed => some .malformed
  | .entry path value =>
    if path ∈ v.texts then value.violation?
    else if path ∈ v.flags then if value = .absent then none else some .malformed
    else some v.unknown

/-- The error that is reported if a requirement is violated. -/
def Requirement.violation? : Requirement → Option DeclarationError
  | .plain generic => if generic then some .generic else none
  | .struct kind => if kind = .named then none else some .notNamed
  | .item v i => v.violation? i
  | .label s => if s ∈ temporalLabels then none else some (.unknownTemporal s)

/-- What is required of a field: all its items come before its temporal kind. -/
def FieldDeclaration.requirements (f : FieldDeclaration) : List Requirement :=
  f.items.map (.item .ofField) ++
    if f.Skipped then [] else (lastText? "temporal" f.items).toList.map .label

/-! ### Requirements that are met -/

theorem Vocabulary.violation?_eq_none (v : Vocabulary) (hv : ∀ path ∈ v.flags, path ∉ v.texts) (i : Item) :
    v.violation? i = none ↔ v.Admits i := by
  constructor
  · intro h
    cases i with
    | malformed => cases h
    | entry path value =>
      rw [violation?] at h
      split at h
      next htext =>
        cases value with
        | text s => exact .text htext s
        | absent | other => cases h
      next =>
        split at h
        next hflag =>
          split at h
          next hvalue =>
            rw [hvalue]
            exact .flag hflag
          next => cases h
        next => cases h
  · intro h
    cases h with
    | text hpath s => rw [violation?, if_pos hpath, ItemValue.violation?]
    | flag hpath => rw [violation?, if_neg (hv _ hpath), if_pos hpath, if_pos rfl]

theorem Vocabulary.not_admits_malformed (v : Vocabulary) : ¬v.Admits .malformed := nofun

/-- Attributes are well formed if all their items are: one without a list counts as malformed. -/
theorem Attribute.wellFormed_iff {v : Vocabulary} {attributes : List Attribute} :
    (∀ a ∈ attributes, a.WellFormed v) ↔ ∀ i ∈ itemsOf attributes, v.Admits i := by
  unfold itemsOf
  rw [List.forall_mem_flatMap]
  refine forall₂_congr fun a _ => ?_
  cases a with
  | entity items => rfl
  | bare => simp [WellFormed, elements, v.not_admits_malformed]
  | foreign => simp [WellFormed, elements]

theorem Requirement.items_met {v : Vocabulary} (hv : ∀ path ∈ v.flags, path ∉ v.texts)
    (attributes : List Attribute) :
    (∀ r ∈ (itemsOf attributes).map (Requirement.item v), r.violation? = none) ↔
      ∀ a ∈ attributes, a.WellFormed v := by
  rw [List.forall_mem_map, Attribute.wellFormed_iff]
  exact forall₂_congr fun i _ => v.violation?_eq_none hv i

theorem FieldDeclaration.acceptable_iff (f : FieldDeclaration) :
    f.Acceptable ↔ ∀ r ∈ f.requirements, r.violation? = none := by
  have hitems : (∀ r ∈ f.items.map (Requirement.item .ofField), r.violation? = none) ↔
      ∀ a ∈ f.attributes, a.WellFormed .ofField := Requirement.items_met (by decide) f.attributes
  rw [requirements, List.forall_mem_append, hitems]
  by_cases hskip : f.Skipped
  · rw [if_pos hskip]
    exact ⟨fun h => ⟨h.attributes, List.forall_mem_nil _⟩, fun h => ⟨h.1, fun hno => absurd hskip hno⟩⟩
  · have hlabel : (∀ r ∈ (lastText? "temporal" f.items).toList.map Requirement.label,
        r.violation? = none) ↔
        ∀ label, lastText? "temporal" f.items = some label → label ∈ temporalLabels := by
      simp [Requirement.violation?]
    rw [if_neg hskip, hlabel]
    exact ⟨fun h => ⟨h.attributes, h.temporal hskip⟩, fun h => ⟨h.1, fun _ => h.2⟩⟩

/-! ### Results that report -/

/-- The error of a result is that of the first requirement that is violated, if there is one. -/
def Reports {α : Type} (x : Except DeclarationError α) (requirements : List Requirement) : Prop :=
  ∀ e, x = .error e ↔ requirements.findSome? Requirement.violation? = some e

namespace Reports

variable {α β : Type} {x : Except DeclarationError α} {r : Requirement} {xs ys : List Requirement}

theorem ok (a : α) : Reports (.ok a) [] := fun _ => ⟨nofun, nofun⟩

/-- A requirement that is met is passed over. -/
theorem skip (hr : r.violation? = none) (h : Reports x xs) : Reports x (r :: xs) := by
  intro e
  rw [List.findSome?_cons, hr]
  exact h e

/-- At one that is violated, reading stops. -/
theorem stop {e : DeclarationError} (hr : r.violation? = some e) (xs : List Requirement) :
    Reports (.error e : Except DeclarationError α) (r :: xs) := by
  intro e'
  rw [List.findSome?_cons, hr]
  simp

/-- A result that is there violates nothing. -/
theorem none_violated (h : Reports x xs) {a : α} (hx : x = .ok a) :
    xs.findSome? Requirement.violation? = none := by
  cases hfind : xs.findSome? Requirement.violation? with
  | none => rfl
  | some e =>
    rw [(h e).mpr hfind] at hx
    cases hx

/-- What follows a result is read after it, if the result is there. -/
theorem bind {f : α → Except DeclarationError β} (hx : Reports x xs)
    (hf : ∀ a, x = .ok a → Reports (f a) ys) : Reports (x >>= f) (xs ++ ys) := by
  intro e
  rw [List.findSome?_append]
  cases x with
  | error first =>
    rw [(hx first).mp rfl]
    exact ⟨fun h => by cases h; rfl, fun h => by cases h; rfl⟩
  | ok a =>
    rw [hx.none_violated rfl, Option.none_or]
    exact hf a rfl e

/-- What is made of a result reports the same. -/
theorem map (hx : Reports x xs) (f : α → β) : Reports (x >>= fun a => .ok (f a)) xs := by
  rw [← List.append_nil xs]
  exact hx.bind fun a _ => ok (f a)

/-- There is a result if nothing is violated. -/
theorem exists_ok_iff (h : Reports x xs) : (∃ a, x = .ok a) ↔ ∀ r ∈ xs, r.violation? = none := by
  rw [← List.findSome?_eq_none_iff]
  constructor
  · rintro ⟨a, hx⟩
    exact h.none_violated hx
  · intro hnone
    cases x with
    | ok a => exact ⟨a, rfl⟩
    | error e =>
      rw [(h e).mp rfl] at hnone
      cases hnone

end Reports

/-! ### Attributes -/

/-- A text has to be there. -/
theorem ItemValue.text?_reports {α : Type} {value : ItemValue} (f : String → α) {r : Requirement}
    (h : r.violation? = value.violation?) : Reports (value.text?.map f) [r] := by
  cases value with
  | text s => exact .skip h (.ok (f s))
  | absent | other => exact .stop h []

theorem EntitySettings.set_reports (settings : EntitySettings) (i : Item) :
    Reports (settings.set i) [.item .ofEntity i] := by
  cases i with
  | malformed => exact .stop rfl []
  | entry path value =>
    unfold set
    dsimp only
    split
    next hpath => exact ItemValue.text?_reports _ (by rw [hpath]; rfl)
    next hname =>
      split
      next hpath => exact ItemValue.text?_reports _ (by rw [hpath]; rfl)
      next htable =>
        refine .stop ?_ []
        simp [Requirement.violation?, Vocabulary.violation?, Vocabulary.ofEntity, hname, htable]

theorem FieldSettings.set_reports (settings : FieldSettings) (i : Item) :
    Reports (settings.set i) [.item .ofField i] := by
  cases i with
  | malformed => exact .stop rfl []
  | entry path value =>
    unfold set
    dsimp only
    split
    next hpath => exact ItemValue.text?_reports _ (by rw [hpath]; rfl)
    next hcolumn =>
      split
      next hpath => exact ItemValue.text?_reports _ (by rw [hpath]; rfl)
      next htemporal =>
        split
        next hpath =>
          split
          next hvalue => exact .skip (by rw [hpath, hvalue]; rfl) (.ok _)
          next hvalue =>
            refine .stop ?_ []
            simp [Requirement.violation?, Vocabulary.violation?, Vocabulary.ofField, hpath, hvalue]
        next hskip =>
          refine .stop ?_ []
          simp [Requirement.violation?, Vocabulary.violation?, Vocabulary.ofField, hcolumn, htemporal,
            hskip]

/-- Gathering goes through the items in order, and stops at the first that is not well formed. -/
theorem gather_reports {α : Type} {set : α → Item → Except DeclarationError α} {v : Vocabulary}
    (hmalformed : ∀ settings, set settings .malformed = .error .malformed)
    (hset : ∀ settings i, Reports (set settings i) [.item v i]) (attributes : List Attribute)
    (start : α) : Reports (gather set start attributes) ((itemsOf attributes).map (.item v)) := by
  rw [gather_eq_foldlM hmalformed]
  generalize itemsOf attributes = items
  induction items generalizing start with
  | nil => exact .ok start
  | cons i rest ih => exact (hset start i).bind fun settings _ => ih settings

/-! ### Fields -/

theorem ofLabel?_isSome_iff (label : String) :
    (TemporalKind.ofLabel? label).isSome ↔ label ∈ temporalLabels := by
  rw [TemporalKind.ofLabel?, List.find?_isSome]
  constructor
  · rintro ⟨kind, -, hkind⟩
    rw [← beq_iff_eq.mp hkind]
    cases kind <;> decide
  · intro h
    rcases List.mem_cons.mp h with rfl | h
    · exact ⟨.date, by decide, by decide⟩
    · rcases List.mem_pair.mp h with rfl | rfl
      · exact ⟨.time, by decide, by decide⟩
      · exact ⟨.timestamp, by decide, by decide⟩

/-- A kind that is set needs one of the labels. -/
theorem FieldSettings.kind_reports (settings : FieldSettings) (type : FieldType) :
    Reports (settings.kind type) (settings.temporal.toList.map .label) := by
  unfold kind
  cases settings.temporal with
  | none => exact .ok _
  | some label =>
    dsimp only
    cases hkind : TemporalKind.ofLabel? label with
    | some found =>
      have hlabel := (ofLabel?_isSome_iff label).mp (by rw [hkind, Option.isSome_some])
      exact .skip (by rw [Requirement.violation?, if_pos hlabel]) (.ok _)
    | none =>
      have hlabel : label ∉ temporalLabels := by
        rw [← ofLabel?_isSome_iff, hkind]
        exact Bool.false_ne_true
      exact .stop (by rw [Requirement.violation?, if_neg hlabel]) []

/-- A field is read up to the first requirement that it violates. -/
theorem FieldDeclaration.derive_reports (f : FieldDeclaration) : Reports f.derive f.requirements := by
  refine (gather_reports (fun _ => rfl) FieldSettings.set_reports f.attributes {}).bind ?_
  intro settings hgather
  have htells := FieldSettings.tells_gather hgather
  by_cases hskip : f.Skipped
  · rw [if_pos hskip, if_pos (htells.skip.mpr hskip)]
    exact .ok none
  · rw [if_neg hskip, if_neg fun h => hskip (htells.skip.mp h)]
    have hkind := settings.kind_reports f.type
    rw [htells.temporal] at hkind
    exact hkind.map _

/-- Fields are read one after the other. -/
theorem deriveFields_reports : ∀ fields : List FieldDeclaration,
    Reports (deriveFields fields) (fields.flatMap (·.requirements))
  | [] => .ok []
  | f :: rest => f.derive_reports.bind fun first _ =>
    (deriveFields_reports rest).map (first.toList ++ ·)

end EntityQuery.Declaration

namespace EntityQuery

open EntityQuery.Declaration

/-! ### Declarations -/

/-- A declaration is accepted. -/
structure Declaration.Acceptable (D : Declaration) : Prop where
  plain : D.generic = false
  struct : D.kind = .named
  attributes : ∀ a ∈ D.attributes, a.WellFormed .ofEntity
  fields : ∀ f ∈ D.fields, f.Acceptable

/-- What is required of a declaration, in the order in which it is read. -/
def Declaration.requirements (D : Declaration) : List Requirement :=
  .plain D.generic :: .struct D.kind ::
    (D.items.map (.item .ofEntity) ++ D.fields.flatMap (·.requirements))

theorem Declaration.acceptable_iff (D : Declaration) :
    D.Acceptable ↔ ∀ r ∈ D.requirements, r.violation? = none := by
  have hplain : (Requirement.plain D.generic).violation? = none ↔ D.generic = false := by
    simp [Requirement.violation?]
  have hstruct : (Requirement.struct D.kind).violation? = none ↔ D.kind = .named := by
    simp [Requirement.violation?]
  have hitems : (∀ r ∈ D.items.map (Requirement.item .ofEntity), r.violation? = none) ↔
      ∀ a ∈ D.attributes, a.WellFormed .ofEntity := Requirement.items_met (by decide) D.attributes
  rw [requirements, List.forall_mem_cons, List.forall_mem_cons, List.forall_mem_append, hplain, hstruct,
    hitems, List.forall_mem_flatMap]
  simp only [← FieldDeclaration.acceptable_iff]
  exact ⟨fun ⟨h₁, h₂, h₃, h₄⟩ => ⟨h₁, h₂, h₃, h₄⟩, fun ⟨h₁, h₂, h₃, h₄⟩ => ⟨h₁, h₂, h₃, h₄⟩⟩

theorem Declaration.derive_reports (D : Declaration) : Reports D.derive D.requirements := by
  unfold derive requirements
  by_cases hgeneric : D.generic
  · rw [if_pos hgeneric]
    exact .stop (by rw [Requirement.violation?, if_pos hgeneric]) _
  · rw [if_neg hgeneric]
    refine .skip (by rw [Requirement.violation?, if_neg hgeneric]) ?_
    by_cases hkind : D.kind = .named
    · rw [if_neg (not_not.mpr hkind)]
      refine .skip (by rw [Requirement.violation?, if_pos hkind]) ?_
      refine (gather_reports (fun _ => rfl) EntitySettings.set_reports D.attributes {}).bind ?_
      exact fun settings _ => (deriveFields_reports D.fields).map _
    · rw [if_pos hkind]
      exact .stop (by rw [Requirement.violation?, if_neg hkind]) _

/-- A declaration is refused with the error of the first requirement that it violates. -/
theorem Declaration.derive_eq_error_iff (D : Declaration) (e : DeclarationError) :
    D.derive = .error e ↔ ∃ before r after, D.requirements = before ++ r :: after ∧
      (∀ met ∈ before, met.violation? = none) ∧ r.violation? = some e := by
  rw [D.derive_reports e, List.findSome?_eq_some_iff]
  constructor
  · rintro ⟨before, r, after, h, hr, hbefore⟩
    exact ⟨before, r, after, h, hbefore, hr⟩
  · rintro ⟨before, r, after, h, hbefore, hr⟩
    exact ⟨before, r, after, h, hr, hbefore⟩

/-- ACCEPTANCE: a model is derived for exactly the structs with named fields and no generic parameters
whose entity attributes are lists of well-formed items, those of skipped fields included, and of whose
other fields each that is given a temporal kind is given one that exists last. Otherwise the error is
that of the first requirement that is violated, in the order of the declaration, and any declaration
that begins with the same requirements ends in the same error. -/
theorem declaration_refused_at_first_violation (D : Declaration) :
    ((∃ d, D.derive = .ok d) ↔ D.Acceptable) ∧
    (∀ e, D.derive = .error e ↔ ∃ before r after, D.requirements = before ++ r :: after ∧
      (∀ met ∈ before, met.violation? = none) ∧ r.violation? = some e) ∧
    ∀ before r after e, D.requirements = before ++ r :: after →
      (∀ met ∈ before, met.violation? = none) → r.violation? = some e →
        ∀ E : Declaration, before ++ [r] <+: E.requirements → E.derive = .error e := by
  refine ⟨?_, D.derive_eq_error_iff, ?_⟩
  · rw [D.derive_reports.exists_ok_iff, D.acceptable_iff]
  · rintro before r _ e - hbefore hr E ⟨after, h⟩
    refine (E.derive_eq_error_iff e).mpr ⟨before, r, after, ?_, hbefore, hr⟩
    rw [← h, List.append_assoc, List.singleton_append]

/-- Shifts: a label that does not count since its field is skipped, one that is replaced, one that stays
and is none of a kind, and an attribute without a list after that. -/
def shift : Declaration where
  kind := .named
  ident := "Shift"
  generic := false
  attributes := [.foreign, .entity [.entry "table" (.text "shifts")]]
  fields := [
    ⟨.inherited, "note", .other, [.entity [.entry "temporal" (.text "day"), .skip]]⟩,
    ⟨.inherited, "start", .other, [.entity [.entry "temporal" (.text "day")],
      .entity [.entry "temporal" (.text "time")]]⟩,
    ⟨.inherited, "rest", .other, [.entity [.entry "temporal" (.text "noon"), .entry "column" (.text "r")]]⟩,
    ⟨.inherited, "finish", .other, [.bare]⟩]

/-- What is required of shifts before the label of the third field. -/
def beforeNoon : List Requirement := [.plain false, .struct .named,
  .item .ofEntity (.entry "table" (.text "shifts")),
  .item .ofField (.entry "temporal" (.text "day")), .item .ofField .skip,
  .item .ofField (.entry "temporal" (.text "day")), .item .ofField (.entry "temporal" (.text "time")),
  .label "time",
  .item .ofField (.entry "temporal" (.text "noon")), .item .ofField (.entry "column" (.text "r"))]

theorem declaration_refused_at_first_violation_shift :
    shift.requirements = beforeNoon ++ .label "noon" :: [.item .ofField .malformed] ∧
    (∀ met ∈ beforeNoon, met.violation? = none) ∧
    shift.derive = .error (.unknownTemporal "noon") ∧
    { shift with ident := "Watch", fields := shift.fields.take 3 }.derive =
      .error (.unknownTemporal "noon") := by
  have hrequired : shift.requirements = beforeNoon ++ .label "noon" :: [.item .ofField .malformed] := by
    decide +kernel
  have hmet : ∀ met ∈ beforeNoon, met.violation? = none := by decide +kernel
  obtain ⟨-, -, hsame⟩ := declaration_refused_at_first_violation shift
  have hnoon := hsame _ _ _ (.unknownTemporal "noon") hrequired hmet (by decide)
  exact ⟨hrequired, hmet, hnoon shift (by decide +kernel), hnoon _ (by decide +kernel)⟩

end EntityQuery
