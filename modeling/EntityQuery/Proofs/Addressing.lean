import EntityQuery.Proofs.Entries
import EntityQuery.Proofs.Lookup
import EntityQuery.Proofs.MethodPath
import EntityQuery.Proofs.Naming
import EntityQuery.Statement.Clause
import Mathlib.Data.List.Nodup

/-!
Addressing: from a field to its accessor, and from the accessor to a column. The accessor carries no
more of the field than the name of a method. What that leads to is looked up in the model by name, and
the first entry that has the name answers. It is the entry of the accessor's own field unless the
names differ, or an earlier field has the same.

```
field      get_code   is_code   getName
entry      code  c1   code  c2  getName  getName
accessor   code  c1   code  c1  name     no column
```
-/

namespace EntityQuery

open EntityQuery.Declaration EntityQuery.Field

/-- What is derived for a field of a declaration, on an entity with the derived model. -/
structure Recorded (D : Declaration) (d : Derived) (e : Entity) (f : FieldDeclaration)
    (entry : FieldModel) : Prop where
  derives : D.derive = .ok d
  model : ∃ modulePath, e.model = d.model modulePath
  field : f ∈ D.fields
  entry : ∃ method, f.derive = .ok (some (entry, method))

/-- An accessor of an entity that comes down to a method with the given name. -/
def Field.Accessor.Names (a : Accessor) (e : Entity) (method : String) : Prop :=
  ∃ declaring, a.key e.typeName = .ok ⟨declaring, method⟩

/-- A reference of an entity whose field has the name that a method leads to. -/
structure Addresses (e : Entity) (method : String) (r : Reference) : Prop where
  entity : r.descriptor.entity = e.model
  name : r.descriptor.name = nameOfMethod method
  temporal : r.descriptor.temporal = (e.model.field? (nameOfMethod method)).bind (·.temporal)

/-- A lookup through separated lookups hands out a reference that says what the accessor's method
leads to. -/
theorem Field.Accessor.Names.resolve {a : Accessor} {e : Entity} {method : String} (h : a.Names e method)
    {known : List Lookup} (hsep : Separated known) (hknown : ⟨e, a⟩ ∈ known) {w : Workspace}
    (hw : Filled known w.store) :
    ∃ r w', w.resolve e a = (.ok r, w') ∧ Addresses e method r := by
  obtain ⟨declaring, hkey⟩ := h
  obtain ⟨r, w', hr⟩ := resolve_ok (l := ⟨e, a⟩) hkey w
  obtain ⟨-, hdescribe⟩ := (trusted_finds hsep).means ⟨e, a⟩ hknown w hw r (by rw [hr])
  obtain ⟨k, hk, hdescriptor⟩ := Lookup.describe_ok hdescribe
  cases hk.symm.trans hkey
  exact ⟨r, w', hr, by rw [hdescriptor]; rfl, by rw [hdescriptor]; rfl, by rw [hdescriptor]; rfl⟩

section

variable {D : Declaration} {d : Derived} {e : Entity} {f : FieldDeclaration} {entry : FieldModel}

theorem Recorded.mem (h : Recorded D d e f entry) : entry ∈ d.fields := by
  obtain ⟨method, hderive⟩ := h.entry
  exact (D.derive_mem h.derives h.field hderive).1

/-- A method is generated under the field's identifier, and returns the field. -/
theorem Recorded.method (h : Recorded D d e f entry) :
    ∃ method ∈ d.accessors, method.name = f.ident ∧ method.returns = f.ident := by
  obtain ⟨method, hderive⟩ := h.entry
  obtain ⟨-, hrecords⟩ := f.derive_some hderive
  exact ⟨method, (D.derive_mem h.derives h.field hderive).2, hrecords.methodName, hrecords.returns⟩

theorem Recorded.name (h : Recorded D d e f entry) : entry.name = nameOfIdent f.plainName := by
  obtain ⟨method, hderive⟩ := h.entry
  exact (f.derive_some hderive).2.name

theorem Recorded.fields (h : Recorded D d e f entry) : e.model.fields = d.fields := by
  obtain ⟨modulePath, hmodel⟩ := h.model
  rw [hmodel]
  rfl

/-- The entity has the name that is derived. -/
theorem Recorded.entityName (h : Recorded D d e f entry) : e.model.entityName = d.entityName := by
  obtain ⟨modulePath, hmodel⟩ := h.model
  rw [hmodel]
  rfl

/-- Fields with identifiers of their own have entries of their own. -/
theorem Recorded.nodup (h : Recorded D d e f entry) (hdistinct : (D.fields.map (·.plainName)).Nodup) :
    d.fields.Nodup := by
  obtain ⟨entries, hentries, hfields, -⟩ := D.derive_ok h.derives
  have hidents : (d.fields.map (·.ident)).Nodup := by
    rw [hfields, List.map_map]
    exact hdistinct.sublist (deriveFields_idents hentries)
  exact List.Nodup.of_map _ hidents

/-- A reference is written as the column of the first entry that has its name, if one has. -/
theorem Addresses.written (h : Recorded D d e f entry) {method : String} {r : Reference}
    (hr : Addresses e method r) (owner : Alias) :
    Clause.field .ofModels ⟨r, owner⟩ =
      match d.fields.find? (·.name == nameOfMethod method) with
      | some first => .ok [.aliasOf owner, .separator, .name first.column]
      | none => .error (.unmappedField d.entityName (nameOfMethod method)) := by
  have hcolumn : Mapping.ofModels.column? r.descriptor =
      (d.fields.find? (·.name == nameOfMethod method)).map (·.column) := by
    unfold Mapping.ofModels EntityModel.field?
    dsimp only
    rw [hr.entity, hr.name, h.fields]
  rw [Clause.field, ScopedField.name, ScopedField.descriptor, hcolumn, hr.entity, h.entityName, hr.name]
  cases d.fields.find? (·.name == nameOfMethod method) <;> rfl

/-- A reference is left without a column exactly if no entry has its name. -/
theorem Addresses.unmapped_iff (h : Recorded D d e f entry) {method : String} {r : Reference}
    (hr : Addresses e method r) (owner : Alias) :
    Clause.field .ofModels ⟨r, owner⟩ = .error (.unmappedField d.entityName (nameOfMethod method)) ↔
      ∀ x ∈ d.fields, x.name ≠ nameOfMethod method := by
  rw [hr.written h]
  split
  next first hfind =>
    refine iff_of_false (fun hfails => by cases hfails) fun hnone => ?_
    exact hnone first (List.mem_of_find?_eq_some hfind) (by simpa using List.find?_some hfind)
  next hfind => exact iff_of_true rfl (by simpa using hfind)

/-- If some entry has its name, it is written as the column of such an entry. -/
theorem Addresses.mapped (h : Recorded D d e f entry) {method : String} {r : Reference}
    (hr : Addresses e method r) (owner : Alias) (hsome : ∃ x ∈ d.fields, x.name = nameOfMethod method) :
    ∃ x ∈ d.fields, x.name = nameOfMethod method ∧
      Clause.field .ofModels ⟨r, owner⟩ = .ok [.aliasOf owner, .separator, .name x.column] := by
  rw [hr.written h]
  obtain ⟨x, hx, hname⟩ := hsome
  obtain ⟨first, hfind⟩ : ∃ first, d.fields.find? (·.name == nameOfMethod method) = some first :=
    Option.isSome_iff_exists.mp (List.find?_isSome.mpr ⟨x, hx, beq_iff_eq.mpr hname⟩)
  rw [hfind]
  exact ⟨first, List.mem_of_find?_eq_some hfind, by simpa using List.find?_some hfind, rfl⟩

/-- The method that is generated for a field is an accessor as long as its name is an identifier. -/
theorem ofMethod_names_iff {e : Entity} {method : String} (htype : IsTypePath e.typeName)
    (hmethod : IsWord method.toList) :
    (Accessor.ofMethod e.typeName method).Names e method ↔ Text.isIdentifier method.toList := by
  unfold Accessor.Names Accessor.ofMethod Accessor.key
  dsimp only
  rw [Key.ofPath_method htype hmethod]
  constructor
  · rintro ⟨declaring, h⟩
    split at h
    · assumption
    · cases h
  · intro h
    rw [if_pos h]
    exact ⟨e.typeName, rfl⟩

end

/-- Of entries that are all different, one is the first with its name if no entry before it has it. -/
theorem find?_namesake_eq_iff {before after : List FieldModel} {entry first : FieldModel}
    (hnodup : (before ++ entry :: after).Nodup)
    (hfind : (before ++ entry :: after).find? (·.name == entry.name) = some first) :
    first = entry ↔ ∀ x ∈ before, x.name ≠ entry.name := by
  rw [List.find?_append] at hfind
  cases hbefore : before.find? (·.name == entry.name) with
  | none =>
    have hown : (entry :: after).find? (·.name == entry.name) = some entry := by simp
    rw [hbefore, Option.none_or, hown] at hfind
    exact iff_of_true (Option.some.inj hfind).symm (by simpa using hbefore)
  | some x =>
    rw [hbefore, Option.some_or] at hfind
    cases hfind
    have hx := List.mem_of_find?_eq_some hbefore
    refine iff_of_false ?_ fun hnone => hnone first hx (by simpa using List.find?_some hbefore)
    rintro rfl
    exact (List.nodup_append.mp hnodup).2.2 first hx first (by simp) rfl

/-- Badges: three fields, two of which come to the same name, and one whose accessor leads to none. -/
def badge : Declaration where
  kind := .named
  ident := "Badge"
  generic := false
  attributes := []
  fields := [
    ⟨.inherited, "get_code", .other, [.entity [.entry "column" (.text "c1")]]⟩,
    ⟨.inherited, "is_code", .path [] "Time" [], [.entity [.entry "column" (.text "c2")]]⟩,
    ⟨.inherited, "getName", .other, []⟩]

/-- What is derived for badges. -/
def derivedBadge : Derived where
  ident := "Badge"
  entityName := "Badge"
  table := "Badge"
  fields := [⟨"get_code", "code", "c1", none⟩, ⟨"is_code", "code", "c2", some .time⟩,
    ⟨"getName", "getName", "getName", none⟩]
  accessors := [⟨.inherited, "get_code", "get_code", "Accessor for `code`."⟩,
    ⟨.inherited, "is_code", "is_code", "Accessor for `code`."⟩,
    ⟨.inherited, "getName", "getName", "Accessor for `getName`."⟩]

/-- The entity of badges. -/
def badges : Entity := ⟨"app::Badge", derivedBadge.model "app"⟩

theorem derive_badge : badge.derive = .ok derivedBadge := by
  decide +kernel

/-- All fields of badges are recorded. -/
theorem recorded_badge {f : FieldDeclaration} {entry : FieldModel} (method : AccessorMethod)
    (hf : f ∈ badge.fields) (hderive : f.derive = .ok (some (entry, method))) :
    Recorded badge derivedBadge badges f entry :=
  ⟨derive_badge, ⟨"app", rfl⟩, hf, method, hderive⟩

/-- The type of badges is a path of words. -/
theorem isTypePath_badges : IsTypePath badges.typeName :=
  ⟨["app".toList, "Badge".toList], by decide, by simp; decide, by decide +kernel⟩

/-- FINDING AN ENTRY: the name recorded for a field is the one that its accessor leads to exactly if the
marks of its identifier are read alike. If they are not, the accessor finds an entry only where another
field has the name that it leads to, and cannot be rendered where none has. -/
theorem entry_found_iff_marked_alike {D : Declaration} {d : Derived} {e : Entity}
    {f : FieldDeclaration} {entry : FieldModel} (h : Recorded D d e f entry) :
    entry ∈ d.fields ∧ (entry.name = nameOfMethod f.plainName ↔ MarkedAlike f.plainName) ∧
    (∃ method ∈ d.accessors, method.name = f.ident ∧ method.returns = f.ident) ∧
    (IsTypePath e.typeName → IsWord f.plainName.toList →
      ((Accessor.ofMethod e.typeName f.plainName).Names e f.plainName ↔
        Text.isIdentifier f.plainName.toList)) ∧
    ∀ a : Accessor, a.Names e f.plainName → ∀ known, Separated known → ⟨e, a⟩ ∈ known →
      ∀ w : Workspace, Filled known w.store →
      ∃ r w', w.resolve e a = (.ok r, w') ∧ ∀ owner,
        (Clause.field .ofModels ⟨r, owner⟩ =
            .error (.unmappedField d.entityName (nameOfMethod f.plainName)) ↔
          ¬MarkedAlike f.plainName ∧
            ∀ other ∈ d.fields, other ≠ entry → other.name ≠ nameOfMethod f.plainName) ∧
        ((∃ other ∈ d.fields, other.name = nameOfMethod f.plainName) →
          ∃ other ∈ d.fields, other.name = nameOfMethod f.plainName ∧
            Clause.field .ofModels ⟨r, owner⟩ =
              .ok [.aliasOf owner, .separator, .name other.column]) := by
  have hname : entry.name = nameOfMethod f.plainName ↔ MarkedAlike f.plainName := by
    rw [h.name, nameOfIdent_eq_iff]
  refine ⟨h.mem, hname, h.method, ofMethod_names_iff, fun a ha known hsep hknown w hw => ?_⟩
  obtain ⟨r, w', hresolve, hr⟩ := ha.resolve hsep hknown hw
  refine ⟨r, w', hresolve, fun owner => ⟨?_, hr.mapped h owner⟩⟩
  rw [hr.unmapped_iff h, ← hname]
  constructor
  · intro hnone
    exact ⟨hnone entry h.mem, fun other hother _ => hnone other hother⟩
  · rintro ⟨hown, hothers⟩ x hx
    rcases eq_or_ne x entry with rfl | hne
    · exact hown
    · exact hothers x hx hne

theorem entry_found_iff_marked_alike_badge : ∃ f entry,
    Recorded badge derivedBadge badges f entry ∧ f.plainName = "getName" ∧
    ∃ r w', untouched.resolve badges (.ofMethod "app::Badge" "getName") = (.ok r, w') ∧
      ∀ owner, Clause.field .ofModels ⟨r, owner⟩ = .error (.unmappedField "Badge" "name") := by
  have h : Recorded badge derivedBadge badges
      ⟨.inherited, "getName", .other, []⟩ ⟨"getName", "getName", "getName", none⟩ :=
    recorded_badge ⟨.inherited, "getName", "getName", "Accessor for `getName`."⟩ (by simp [badge])
      (by decide +kernel)
  have hplain : (⟨.inherited, "getName", .other, []⟩ : FieldDeclaration).plainName = "getName" := by
    decide +kernel
  obtain ⟨-, -, -, hgenerated, hfound⟩ := entry_found_iff_marked_alike h
  rw [hplain] at hgenerated hfound
  obtain ⟨r, w', hr, hwritten⟩ := hfound (.ofMethod "app::Badge" "getName")
    ((hgenerated isTypePath_badges (by decide +kernel)).mpr (by decide +kernel)) _
    (separated_singleton _) (List.mem_singleton_self _) untouched (filled_untouched _)
  have hname : nameOfMethod "getName" = "name" := by decide +kernel
  rw [hname] at hwritten
  refine ⟨_, _, h, hplain, r, w', hr, fun owner => ?_⟩
  exact (hwritten owner).1.mpr ⟨by decide +kernel, by decide +kernel⟩

/-- The entry of a badge's `getName` has not the name that its accessor leads to, and no entry has. -/
theorem badge_name_unmapped :
    (badge.derive.toOption.bind fun d => (d.model "app").fieldByIdent? "getName").map (·.name) ≠
      some (nameOfMethod "getName") ∧
    ((Field.resolve badges (.ofMethod "app::Badge" "getName") { id := 0 } {}).1.toOption.bind
      fun r => Mapping.ofModels.column? r.descriptor) = none := by
  decide +kernel

/-- ADDRESSING: through the accessor of a field whose names agree, the column and the temporal kind of the
first entry with its name are reached, and they are the field's own if no entry before it has that
name. -/
theorem accessor_addresses_first_namesake {D : Declaration} {d : Derived} {e : Entity}
    {f : FieldDeclaration} {entry : FieldModel} (h : Recorded D d e f entry)
    (hdistinct : (D.fields.map (·.plainName)).Nodup)
    (hname : entry.name = nameOfMethod f.plainName) :
    (∃ method ∈ d.accessors, method.name = f.ident ∧ method.returns = f.ident) ∧
    (IsTypePath e.typeName → IsWord f.plainName.toList →
      ((Accessor.ofMethod e.typeName f.plainName).Names e f.plainName ↔
        Text.isIdentifier f.plainName.toList)) ∧
    ∀ a : Accessor, a.Names e f.plainName → ∀ known, Separated known → ⟨e, a⟩ ∈ known →
      ∀ w : Workspace, Filled known w.store →
      ∃ r w' first, w.resolve e a = (.ok r, w') ∧
        d.fields.find? (·.name == entry.name) = some first ∧
        (∀ owner, Clause.field .ofModels ⟨r, owner⟩ =
          .ok [.aliasOf owner, .separator, .name first.column]) ∧
        r.descriptor.temporal = first.temporal ∧ entry ∈ d.fields ∧
        ∀ before after, d.fields = before ++ entry :: after →
          (first = entry ↔ ∀ x ∈ before, x.name ≠ entry.name) := by
  refine ⟨h.method, ofMethod_names_iff, fun a ha known hsep hknown w hw => ?_⟩
  obtain ⟨r, w', hresolve, hr⟩ := ha.resolve hsep hknown hw
  obtain ⟨first, hfind⟩ : ∃ first, d.fields.find? (·.name == entry.name) = some first :=
    Option.isSome_iff_exists.mp (List.find?_isSome.mpr ⟨entry, h.mem, beq_self_eq_true _⟩)
  refine ⟨r, w', first, hresolve, hfind, fun owner => ?_, ?_, h.mem, ?_⟩
  · rw [hr.written h, ← hname, hfind]
  · rw [hr.temporal, ← hname, EntityModel.field?, h.fields, hfind]
    rfl
  · intro before after hsplit
    have hnodup := h.nodup hdistinct
    rw [hsplit] at hnodup hfind
    exact find?_namesake_eq_iff hnodup hfind

theorem accessor_addresses_first_namesake_badge : ∃ f entry,
    Recorded badge derivedBadge badges f entry ∧ f.plainName = "is_code" ∧
    entry.column = "c2" ∧ entry.temporal = some .time ∧
    ∃ r w', untouched.resolve badges (.ofMethod "app::Badge" "is_code") = (.ok r, w') ∧
      (∀ owner, Clause.field .ofModels ⟨r, owner⟩ = .ok [.aliasOf owner, .separator, .name "c1"]) ∧
      r.descriptor.temporal = none := by
  have h : Recorded badge derivedBadge badges ⟨.inherited, "is_code", .path [] "Time" [],
      [.entity [.entry "column" (.text "c2")]]⟩ ⟨"is_code", "code", "c2", some .time⟩ :=
    recorded_badge ⟨.inherited, "is_code", "is_code", "Accessor for `code`."⟩ (by simp [badge])
      (by decide +kernel)
  have hplain : (⟨.inherited, "is_code", .path [] "Time" [],
      [.entity [.entry "column" (.text "c2")]]⟩ : FieldDeclaration).plainName = "is_code" := by
    decide +kernel
  obtain ⟨-, hgenerated, haddresses⟩ :=
    accessor_addresses_first_namesake h (by decide +kernel) (by decide +kernel)
  rw [hplain] at hgenerated haddresses
  obtain ⟨r, w', first, hr, hfind, hcolumn, htemporal, -⟩ :=
    haddresses (.ofMethod "app::Badge" "is_code")
      ((hgenerated isTypePath_badges (by decide +kernel)).mpr (by decide +kernel)) _
      (separated_singleton _) (List.mem_singleton_self _) untouched (filled_untouched _)
  obtain rfl : ⟨"get_code", "code", "c1", none⟩ = first := Option.some.inj hfind
  exact ⟨_, _, h, hplain, rfl, rfl, r, w', hr, hcolumn, htemporal⟩

/-- The accessor of a badge's `is_code` reaches the column and the temporal kind of `get_code`. -/
theorem badge_code_misaddressed :
    ((badge.derive.toOption.bind fun d => (d.model "app").fieldByIdent? "is_code").map
      fun entry => (entry.column, entry.temporal)) = some ("c2", some .time) ∧
    ((Field.resolve badges (.ofMethod "app::Badge" "is_code") { id := 0 } {}).1.toOption.map
      fun r => (Mapping.ofModels.column? r.descriptor, r.descriptor.temporal)) =
        some (some "c1", none) := by
  decide +kernel

end EntityQuery
