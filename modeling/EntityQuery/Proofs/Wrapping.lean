import EntityQuery.Declaration.FieldType
import Mathlib.Data.List.Basic

/-!
Wrapping: optional types bind as what they wrap. An `Option` stands around a type if the type is its first
argument that is one; before it there may be lifetimes and constants, behind it anything. Taken off layer
by layer, every type leads to one that is no such `Option`, and only the name of that one counts.

```
type                           layers                 innermost   kind
Option<'a, time::Date>         Option<'a, ·>          time::Date  date
std::option::Option<Option>    std::option::Option<·> Option      no kind
Vec<Date>                                             Vec<Date>   no kind
```
-/

namespace EntityQuery.Declaration

/-! ### Layers -/

/-- The type that an argument is, if it is one. -/
def TypeArgument.type? : TypeArgument → Option FieldType
  | .type t => some t
  | _ => none

/-- An `Option` without the type that it stands around. -/
structure OptionLayer where
  /-- The segments before the name. -/
  qualifier : List String
  /-- The arguments before the type. -/
  leading : List TypeArgument
  /-- The arguments behind it. -/
  following : List TypeArgument
  leading_untyped : ∀ a ∈ leading, a.type? = none

/-- A type in a layer. -/
def OptionLayer.wrap (l : OptionLayer) (t : FieldType) : FieldType :=
  .path l.qualifier "Option" (l.leading ++ .type t :: l.following)

/-- A type in layers, the outermost first. -/
def FieldType.wrapped (t : FieldType) (layers : List OptionLayer) : FieldType :=
  layers.foldr OptionLayer.wrap t

mutual

/-- What is left of a type without its layers. -/
def FieldType.innermost : FieldType → FieldType
  | .path qualifier name arguments =>
    let t := .path qualifier name arguments
    if name = "Option" then (firstInnermost? arguments).getD t else t
  | .other => .other

/-- What is left of the first argument that is a type. -/
def firstInnermost? : List TypeArgument → Option FieldType
  | [] => none
  | .type t :: _ => some t.innermost
  | .lifetime :: rest => firstInnermost? rest
  | .other :: rest => firstInnermost? rest

end

/-- A type that is in no layer. -/
def FieldType.IsBare (t : FieldType) : Prop := ∀ (l : OptionLayer) u, t ≠ l.wrap u

/-- The names that stand for a kind. -/
def kindNames : TemporalKind → List String
  | .date => ["Date"]
  | .time => ["Time"]
  | .timestamp => ["PrimitiveDateTime", "OffsetDateTime"]

theorem kindOfName?_eq_some_iff {name : String} {k : TemporalKind} :
    kindOfName? name = some k ↔ name ∈ kindNames k := by
  constructor
  · intro h
    unfold kindOfName? at h
    split_ifs at h with hdate htime hstamp
    · cases h
      simp [kindNames, hdate]
    · cases h
      simp [kindNames, htime]
    · cases h
      simpa [kindNames] using hstamp
  · have hall : ∀ n ∈ kindNames k, kindOfName? n = some k := by
      cases k <;> decide
    exact hall name

/-! ### One layer -/

theorem TypeArgument.type?_eq_some_iff {a : TypeArgument} {t : FieldType} :
    a.type? = some t ↔ a = .type t := by
  cases a <;> simp [type?]

theorem firstKind?_eq : ∀ arguments : List TypeArgument,
    firstKind? arguments = (arguments.findSome? TypeArgument.type?).bind FieldType.kind?
  | [] => rfl
  | .type _ :: _ => rfl
  | .lifetime :: rest => firstKind?_eq rest
  | .other :: rest => firstKind?_eq rest

theorem firstInnermost?_eq : ∀ arguments : List TypeArgument,
    firstInnermost? arguments = (arguments.findSome? TypeArgument.type?).map FieldType.innermost
  | [] => rfl
  | .type _ :: _ => rfl
  | .lifetime :: rest => firstInnermost?_eq rest
  | .other :: rest => firstInnermost?_eq rest

section

variable (l : OptionLayer) (t : FieldType)

theorem OptionLayer.first_type :
    (l.leading ++ .type t :: l.following).findSome? TypeArgument.type? = some t := by
  rw [List.findSome?_append, List.findSome?_eq_none_iff.mpr l.leading_untyped]
  rfl

theorem OptionLayer.kind?_wrap : (l.wrap t).kind? = t.kind? := by
  rw [wrap, FieldType.kind?, if_pos rfl, firstKind?_eq, l.first_type, Option.bind_some]

theorem OptionLayer.innermost_wrap : (l.wrap t).innermost = t.innermost := by
  rw [wrap, FieldType.innermost, if_pos rfl, firstInnermost?_eq, l.first_type, Option.map_some,
    Option.getD_some]

theorem OptionLayer.sizeOf_lt_wrap : sizeOf t < sizeOf (l.wrap t) := by
  have hmem : TypeArgument.type t ∈ l.leading ++ .type t :: l.following :=
    List.mem_append_right _ List.mem_cons_self
  have hargument := List.sizeOf_lt_of_mem hmem
  simp only [wrap, FieldType.path.sizeOf_spec, TypeArgument.type.sizeOf_spec] at hargument ⊢
  omega

end

/-! ### Bare types -/

section

variable {t : FieldType} {qualifier : List String} {arguments : List TypeArgument}

/-- An `Option` is bare exactly if no argument of it is a type. -/
theorem FieldType.isBare_option_iff : (FieldType.path qualifier "Option" arguments).IsBare ↔
    arguments.findSome? TypeArgument.type? = none := by
  constructor
  · intro h
    cases hfirst : arguments.findSome? TypeArgument.type? with
    | none => rfl
    | some u =>
      obtain ⟨leading, a, following, rfl, ha, hleading⟩ := List.findSome?_eq_some_iff.mp hfirst
      obtain rfl := TypeArgument.type?_eq_some_iff.mp ha
      exact absurd rfl (h ⟨qualifier, leading, following, hleading⟩ u)
  · rintro h l u ⟨⟩
    rw [l.first_type] at h
    cases h

theorem FieldType.IsBare.innermost_eq (h : t.IsBare) : t.innermost = t := by
  cases t with
  | other => rfl
  | path qualifier name arguments =>
    rw [innermost]
    split_ifs with hname
    · subst hname
      rw [firstInnermost?_eq, isBare_option_iff.mp h]
      rfl
    · rfl

/-- The name of a bare type tells its kind. -/
theorem FieldType.IsBare.kind?_eq_some_iff (h : t.IsBare) {k : TemporalKind} : t.kind? = some k ↔
    ∃ qualifier name arguments, t = .path qualifier name arguments ∧ name ∈ kindNames k := by
  cases t with
  | other => simp [kind?]
  | path qualifier name arguments =>
    have hname : (FieldType.path qualifier name arguments).kind? = kindOfName? name := by
      rw [kind?]
      split_ifs with hoption
      · subst hoption
        rw [firstKind?_eq, isBare_option_iff.mp h]
        rfl
      · rfl
    rw [hname, kindOfName?_eq_some_iff]
    constructor
    · exact fun hmem => ⟨qualifier, name, arguments, rfl, hmem⟩
    · rintro ⟨_, _, _, ⟨⟩, hmem⟩
      exact hmem

end

/-! ### All layers -/

/-- Every type is bare, or a layer stands around a smaller one. -/
@[elab_as_elim]
theorem FieldType.layer_induction {motive : FieldType → Prop} (bare : ∀ t, t.IsBare → motive t)
    (layer : ∀ (l : OptionLayer) t, motive t → motive (l.wrap t)) (t : FieldType) : motive t := by
  by_cases h : t.IsBare
  · exact bare t h
  · simp only [IsBare, not_forall, not_not] at h
    obtain ⟨l, u, ht⟩ := h
    rw [ht]
    exact layer l u (layer_induction bare layer u)
termination_by sizeOf t
decreasing_by
  rw [ht]
  exact l.sizeOf_lt_wrap u

namespace FieldType

theorem innermost_isBare (t : FieldType) : t.innermost.IsBare := by
  induction t using layer_induction with
  | bare t h => rwa [h.innermost_eq]
  | layer l t ih => rwa [l.innermost_wrap]

/-- The layers that were taken off a type lead back to it. -/
theorem exists_eq_wrapped (t : FieldType) : ∃ layers, t = t.innermost.wrapped layers := by
  induction t using layer_induction with
  | bare t h => exact ⟨[], h.innermost_eq.symm⟩
  | layer l t ih =>
    obtain ⟨layers, ht⟩ := ih
    refine ⟨l :: layers, ?_⟩
    rw [l.innermost_wrap]
    exact congrArg l.wrap ht

theorem kind?_wrapped (t : FieldType) : ∀ layers, (t.wrapped layers).kind? = t.kind?
  | [] => rfl
  | l :: layers => (l.kind?_wrap _).trans (t.kind?_wrapped layers)

theorem innermost_wrapped (t : FieldType) : ∀ layers, (t.wrapped layers).innermost = t.innermost
  | [] => rfl
  | l :: layers => (l.innermost_wrap _).trans (t.innermost_wrapped layers)

/-- What is left of a type is the one bare type that it wraps. -/
theorem eq_innermost_iff {t core : FieldType} :
    core = t.innermost ↔ core.IsBare ∧ ∃ layers, t = core.wrapped layers := by
  constructor
  · rintro rfl
    exact ⟨t.innermost_isBare, t.exists_eq_wrapped⟩
  · rintro ⟨hbare, layers, rfl⟩
    rw [core.innermost_wrapped, hbare.innermost_eq]

theorem kind?_eq_some_iff {t : FieldType} {k : TemporalKind} : t.kind? = some k ↔
    ∃ qualifier name arguments,
      t.innermost = .path qualifier name arguments ∧ name ∈ kindNames k := by
  obtain ⟨layers, ht⟩ := t.exists_eq_wrapped
  rw [← t.innermost_isBare.kind?_eq_some_iff, ← t.innermost.kind?_wrapped layers, ← ht]

end FieldType

/-- WRAPPING: how a type is to be bound is not changed by any number of layers around it, and is told by
the one bare type that is left when all are taken off: by its name, if it is a path and its name stands
for a kind, and not at all otherwise. An `Option` without an argument that is a type is such a bare type,
and its name stands for none. -/
theorem kind_told_by_innermost (t : FieldType) :
    (∀ layers, (t.wrapped layers).kind? = t.kind?) ∧
    (∀ core, core = t.innermost ↔ core.IsBare ∧ ∃ layers, t = core.wrapped layers) ∧
    (∀ k, t.kind? = some k ↔ ∃ qualifier name arguments,
      t.innermost = .path qualifier name arguments ∧ name ∈ kindNames k) ∧
    ∀ qualifier arguments, t = .path qualifier "Option" arguments →
      (∀ a ∈ arguments, a.type? = none) → t.innermost = t ∧ t.kind? = none := by
  refine ⟨t.kind?_wrapped, fun core => FieldType.eq_innermost_iff,
    fun k => FieldType.kind?_eq_some_iff, ?_⟩
  rintro qualifier arguments rfl huntyped
  have hbare : (FieldType.path qualifier "Option" arguments).IsBare :=
    FieldType.isBare_option_iff.mpr (List.findSome?_eq_none_iff.mpr huntyped)
  refine ⟨hbare.innermost_eq, Option.eq_none_iff_forall_ne_some.mpr fun k hk => ?_⟩
  obtain ⟨_, name, _, heq, hname⟩ := hbare.kind?_eq_some_iff.mp hk
  cases heq
  cases k <;> simp [kindNames] at hname

/-- The layers of `Option<'a, std::option::Option<·>>`. -/
def optionalTwice : List OptionLayer :=
  [⟨[], [.lifetime], [], by simp [TypeArgument.type?]⟩, ⟨["std", "option"], [], [], by simp⟩]

theorem kind_told_by_innermost_date :
    FieldType.ofText "Option<'a, std::option::Option<time::Date>>" =
      (FieldType.path ["time"] "Date" []).wrapped optionalTwice ∧
    ((FieldType.path ["time"] "Date" []).wrapped optionalTwice).kind? = some .date ∧
    FieldType.ofText "core::option::Option<'a>" = .path ["core", "option"] "Option" [.lifetime] ∧
    (FieldType.path ["core", "option"] "Option" [.lifetime]).kind? = none := by
  obtain ⟨hwrapped, -, hkind, -⟩ := kind_told_by_innermost (.path ["time"] "Date" [])
  obtain ⟨-, -, -, huntyped⟩ :=
    kind_told_by_innermost (.path ["core", "option"] "Option" [.lifetime])
  refine ⟨by rfl, ?_, by rfl, (huntyped _ _ rfl ?_).2⟩
  · exact (hwrapped optionalTwice).trans ((hkind .date).mpr ⟨["time"], "Date", [], rfl, by decide⟩)
  · simp [TypeArgument.type?]

end EntityQuery.Declaration
