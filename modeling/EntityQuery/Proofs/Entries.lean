import EntityQuery.Proofs.Gathering
import EntityQuery.Proofs.MethodPath
import Mathlib.Data.List.Forall2

/-!
Entries: what a model records for the fields of a declaration. Every field that is not skipped has one
entry, in the order of the fields, under its identifier and a name made of that; and it has an
accessor, under the identifier as it is written.

```
declared    is_active   r#type   getName   #[entity(skip)] scratch
entry       active      type     getName
accessor    is_active   r#type   getName
```
-/

namespace EntityQuery.Declaration

open EntityQuery.Field

/-- The identifier of a field, without its `r#`. -/
def FieldDeclaration.plainName (f : FieldDeclaration) : String :=
  String.ofList (plainIdent f.ident.toList)

/-- The items of the attributes of a field. -/
def FieldDeclaration.items (f : FieldDeclaration) : List Item := itemsOf f.attributes

/-- Some item of a field says that it is skipped. -/
def FieldDeclaration.Skipped (f : FieldDeclaration) : Prop := .skip ∈ f.items

instance (f : FieldDeclaration) : Decidable f.Skipped := inferInstanceAs (Decidable (_ ∈ _))

/-- An entry and a method are those of a field: what its attributes do not set comes from its identifier
and its type. -/
structure FieldDeclaration.Records (f : FieldDeclaration) (entry : FieldModel)
    (method : AccessorMethod) : Prop where
  ident : entry.ident = f.plainName
  name : entry.name = nameOfIdent f.plainName
  column : entry.column = (lastText? "column" f.items).getD entry.name
  /-- The kind is the one whose label is given last. -/
  temporal : ∀ label, lastText? "temporal" f.items = some label →
    ∃ kind, entry.temporal = some kind ∧ kind.label = label
  inferred : lastText? "temporal" f.items = none → entry.temporal = f.type.kind?
  visibility : method.visibility = f.visibility
  methodName : method.name = f.ident
  returns : method.returns = f.ident
  doc : method.doc = s!"Accessor for `{entry.name}`."

/-! ### The entry of a field -/

/-- The name is the identifier itself, or what follows its `r#`. -/
theorem FieldDeclaration.plainName_of_isWord (f : FieldDeclaration) {w : String} (hw : IsWord w.toList)
    (h : f.ident = w ∨ f.ident = "r#" ++ w) : f.plainName = w := by
  have hword : plainIdent w.toList = w.toList := by
    unfold plainIdent
    split
    next rest heq => exact absurd (hw.inWord '#' (by rw [heq]; simp)) (by decide)
    next => rfl
  rcases h with h | h
  · rw [plainName, h, hword, String.ofList_toList]
  · have hraw : plainIdent ("r#" ++ w).toList = plainIdent w.toList := by
      rw [String.toList_append]
      rfl
    rw [plainName, h, hraw, hword, String.ofList_toList]

/-- A kind is found under its label and no other. -/
theorem label_of_ofLabel? {label : String} {kind : TemporalKind}
    (h : TemporalKind.ofLabel? label = some kind) : kind.label = label := by
  simpa using List.find?_some h

/-- The kind that is set, or inferred. -/
theorem FieldSettings.kind_ok {settings : FieldSettings} {type : FieldType} {temporal : Option TemporalKind}
    (h : settings.kind type = .ok temporal) :
    (∀ label, settings.temporal = some label → ∃ kind, temporal = some kind ∧ kind.label = label) ∧
      (settings.temporal = none → temporal = type.kind?) := by
  unfold FieldSettings.kind at h
  cases hset : settings.temporal with
  | none =>
    rw [hset] at h
    cases h
    exact ⟨fun label hlabel => (nomatch hlabel), fun _ => rfl⟩
  | some label =>
    rw [hset] at h
    dsimp only at h
    split at h
    next kind hkind =>
      cases h
      refine ⟨?_, fun hnone => (nomatch hnone)⟩
      rintro _ ⟨rfl⟩
      exact ⟨kind, rfl, label_of_ofLabel? hkind⟩
    next => cases h

/-- A field is skipped, or what is recorded is as its declaration has it. -/
theorem FieldDeclaration.derive_ok {f : FieldDeclaration}
    {result : Option (FieldModel × AccessorMethod)} (h : f.derive = .ok result) :
    (f.Skipped ∧ result = none) ∨
      (¬f.Skipped ∧ ∃ entry method, result = some (entry, method) ∧ f.Records entry method) := by
  obtain ⟨settings, hgather, h⟩ := bind_ok h
  have htells := FieldSettings.tells_gather hgather
  dsimp only at h
  split at h
  next hskip =>
    cases h
    exact .inl ⟨htells.skip.mp hskip, rfl⟩
  next hskip =>
    obtain ⟨temporal, hkind, h⟩ := bind_ok h
    cases h
    obtain ⟨hset, hinferred⟩ := FieldSettings.kind_ok hkind
    rw [htells.temporal] at hset hinferred
    refine .inr ⟨fun hskipped => hskip (htells.skip.mpr hskipped), _, _, rfl, ?_⟩
    refine ⟨rfl, rfl, ?_, hset, hinferred, rfl, rfl, rfl, rfl⟩
    rw [htells.column]
    rfl

/-- A field is recorded under its identifier, with a name made of that, and has an accessor of the same
identifier. -/
theorem FieldDeclaration.derive_some {f : FieldDeclaration} {entry : FieldModel}
    {method : AccessorMethod} (h : f.derive = .ok (some (entry, method))) :
    ¬f.Skipped ∧ f.Records entry method := by
  rcases f.derive_ok h with ⟨-, hnone⟩ | ⟨hskipped, entry', method', heq, hrecords⟩
  · cases hnone
  · cases heq
    exact ⟨hskipped, hrecords⟩

/-! ### The entries of fields -/

/-- All fields that are not skipped are recorded, and nothing else is. -/
theorem mem_deriveFields : ∀ {fields : List FieldDeclaration}
    {entries : List (FieldModel × AccessorMethod)}, deriveFields fields = .ok entries →
    ∀ p, p ∈ entries ↔ ∃ f ∈ fields, f.derive = .ok (some p)
  | [], entries, h, p => by
    cases h
    simp
  | f :: rest, entries, h, p => by
    obtain ⟨first, hfirst, h⟩ := bind_ok h
    obtain ⟨others, hothers, h⟩ := bind_ok h
    cases h
    rw [List.mem_append, mem_deriveFields hothers p, Option.mem_toList]
    simp only [List.mem_cons, or_and_right, exists_or, exists_eq_left, hfirst, Except.ok.injEq]

/-- The entries and methods are those of the fields that are not skipped, one for one and in order. -/
theorem deriveFields_records : ∀ {fields : List FieldDeclaration}
    {entries : List (FieldModel × AccessorMethod)}, deriveFields fields = .ok entries →
    List.Forall₂ (fun f p => f.Records p.1 p.2) (fields.filter fun f => ¬f.Skipped) entries
  | [], entries, h => by
    cases h
    exact .nil
  | f :: rest, entries, h => by
    obtain ⟨first, hfirst, h⟩ := bind_ok h
    obtain ⟨others, hothers, h⟩ := bind_ok h
    cases h
    have ih := deriveFields_records hothers
    rcases f.derive_ok hfirst with ⟨hskipped, rfl⟩ | ⟨hskipped, entry, method, rfl, hrecords⟩
    · rwa [List.filter_cons_of_neg (by simpa using hskipped)]
    · rw [List.filter_cons_of_pos (by simpa using hskipped)]
      exact .cons hrecords ih

/-- They are recorded in order. -/
theorem deriveFields_idents {fields : List FieldDeclaration}
    {entries : List (FieldModel × AccessorMethod)} (h : deriveFields fields = .ok entries) :
    (entries.map (·.1.ident)).Sublist (fields.map (·.plainName)) := by
  have hidents : List.Forall₂ Eq ((fields.filter fun f => ¬f.Skipped).map (·.plainName))
      (entries.map (·.1.ident)) :=
    List.forall₂_map_left_iff.mpr (List.forall₂_map_right_iff.mpr
      ((deriveFields_records h).imp fun _ _ hrecords => hrecords.ident.symm))
  rw [List.forall₂_eq_eq_eq] at hidents
  rw [← hidents]
  exact List.filter_sublist.map _

/-! ### Declarations that say the same -/

/-- Two fields are declared alike, but for how their items are spread over attributes. -/
structure FieldDeclaration.SameAs (f g : FieldDeclaration) : Prop where
  visibility : f.visibility = g.visibility
  ident : f.ident = g.ident
  type : f.type = g.type
  items : f.items = g.items

theorem FieldDeclaration.SameAs.derive_eq {f g : FieldDeclaration} (h : f.SameAs g) :
    f.derive = g.derive := by
  have hgather : gather FieldSettings.set {} f.attributes = gather FieldSettings.set {} g.attributes :=
    gather_congr (fun _ => rfl) h.items
  rw [FieldDeclaration.derive, FieldDeclaration.derive, hgather, h.visibility, h.ident, h.type]

/-- A field with all its items in one attribute. -/
def FieldDeclaration.inOne (f : FieldDeclaration) : FieldDeclaration :=
  { f with attributes := [.entity f.items] }

theorem FieldDeclaration.inOne_sameAs (f : FieldDeclaration) : f.inOne.SameAs f :=
  ⟨rfl, rfl, rfl, itemsOf_entity f.items⟩

theorem deriveFields_eq {fields others : List FieldDeclaration}
    (h : List.Forall₂ FieldDeclaration.SameAs fields others) :
    deriveFields fields = deriveFields others := by
  induction h with
  | nil => rfl
  | cons hfirst _ ih => rw [deriveFields, deriveFields, hfirst.derive_eq, ih]

end EntityQuery.Declaration

namespace EntityQuery

open EntityQuery.Declaration EntityQuery.Field

/-- The items of the attributes of a declared item. -/
def Declaration.items (D : Declaration) : List Item := itemsOf D.attributes

/-- What is derived for a declaration: the names that its attributes set or its identifier stands in for,
and the entries of its fields with as many accessors. -/
theorem Declaration.derive_ok {D : Declaration} {d : Derived} (h : D.derive = .ok d) :
    ∃ entries, deriveFields D.fields = .ok entries ∧ d.fields = entries.map (·.1) ∧
      d.accessors = entries.map (·.2) ∧ d.ident = D.ident ∧
      d.entityName = (lastText? "name" D.items).getD D.ident ∧
      d.table = (lastText? "table" D.items).getD d.entityName := by
  unfold Declaration.derive at h
  split at h
  · cases h
  · split at h
    · cases h
    · obtain ⟨settings, hgather, h⟩ := bind_ok h
      obtain ⟨entries, hentries, h⟩ := bind_ok h
      have htells := EntitySettings.tells_gather hgather
      cases h
      refine ⟨entries, hentries, rfl, rfl, rfl, ?_, ?_⟩
      · exact congrArg (Option.getD · _) htells.name
      · exact congrArg (Option.getD · _) htells.table

/-- The entry and the accessor of a field are in it. -/
theorem Declaration.derive_mem {D : Declaration} {d : Derived} (h : D.derive = .ok d)
    {f : FieldDeclaration} (hf : f ∈ D.fields) {entry : FieldModel} {method : AccessorMethod}
    (hderive : f.derive = .ok (some (entry, method))) : entry ∈ d.fields ∧ method ∈ d.accessors := by
  obtain ⟨entries, hentries, hfields, haccessors, -⟩ := D.derive_ok h
  have hp := (mem_deriveFields hentries (entry, method)).mpr ⟨f, hf, hderive⟩
  rw [hfields, haccessors]
  exact ⟨List.mem_map_of_mem hp, List.mem_map_of_mem hp⟩

/-- Two declarations are alike, but for how their items and those of their fields are spread over
attributes. -/
structure Declaration.SameAs (D E : Declaration) : Prop where
  kind : D.kind = E.kind
  ident : D.ident = E.ident
  generic : D.generic = E.generic
  items : D.items = E.items
  fields : List.Forall₂ FieldDeclaration.SameAs D.fields E.fields

theorem Declaration.SameAs.derive_eq {D E : Declaration} (h : D.SameAs E) : D.derive = E.derive := by
  have hgather : gather EntitySettings.set {} D.attributes = gather EntitySettings.set {} E.attributes :=
    gather_congr (fun _ => rfl) h.items
  rw [Declaration.derive, Declaration.derive, h.generic, h.kind, hgather, deriveFields_eq h.fields, h.ident]

/-- A declaration with all its items in one attribute, and those of each field. -/
def Declaration.inOne (D : Declaration) : Declaration :=
  { D with attributes := [.entity D.items], fields := D.fields.map (·.inOne) }

theorem Declaration.inOne_sameAs (D : Declaration) : D.inOne.SameAs D where
  kind := rfl
  ident := rfl
  generic := rfl
  items := itemsOf_entity D.items
  fields := List.forall₂_map_left_iff.mpr (List.forall₂_same.mpr fun f _ => f.inOne_sameAs)

/-- ENTRIES: the entries of a model and its accessors belong one for one to the fields that no item says
are skipped; what attributes set last is recorded, and what they do not set is made of the identifier and
the type; and it does not matter how items are spread over attributes. -/
theorem entries_follow_declaration {D : Declaration} {d : Derived} (h : D.derive = .ok d) :
    (∃ entries : List (FieldModel × AccessorMethod), d.fields = entries.map (·.1) ∧
      d.accessors = entries.map (·.2) ∧
      List.Forall₂ (fun f p => f.Records p.1 p.2) (D.fields.filter fun f => ¬f.Skipped) entries) ∧
    (d.ident = D.ident ∧ d.entityName = (lastText? "name" D.items).getD D.ident ∧
      d.table = (lastText? "table" D.items).getD d.entityName) ∧
    (∀ f ∈ D.fields, ∀ w : String, IsWord w.toList → f.ident = w ∨ f.ident = "r#" ++ w →
      f.plainName = w) ∧
    ∀ E : Declaration, E.SameAs D → E.derive = .ok d := by
  obtain ⟨entries, hentries, hfields, haccessors, hnames⟩ := D.derive_ok h
  refine ⟨⟨entries, hfields, haccessors, deriveFields_records hentries⟩, hnames, ?_, ?_⟩
  · exact fun f _ w hw hident => f.plainName_of_isWord hw hident
  · intro E hsame
    rw [hsame.derive_eq, h]

/-- Visits: a raw identifier, settings that are given twice, and a field that is skipped in spite of its
temporal kind. -/
def visit : Declaration where
  kind := .named
  ident := "Visit"
  generic := false
  attributes := [.entity [.entry "name" (.text "Call")], .foreign, .entity [.entry "name" (.text "Stay")]]
  fields := [
    ⟨.everyone, "r#type", .other, [.entity [.entry "column" (.text "a"), .entry "temporal" (.text "day")],
      .foreign, .entity [.entry "temporal" (.text "time"), .entry "column" (.text "b")]]⟩,
    ⟨.inherited, "note", .other, [.entity [.entry "temporal" (.text "day"), .skip]]⟩,
    ⟨.inherited, "is_late", .path [] "Option" [.type (.path ["time"] "Date" [])], []⟩]

/-- What is derived for visits. -/
def derivedVisit : Derived where
  ident := "Visit"
  entityName := "Stay"
  table := "Stay"
  fields := [⟨"type", "type", "b", some .time⟩, ⟨"is_late", "late", "late", some .date⟩]
  accessors := [⟨.everyone, "r#type", "r#type", "Accessor for `type`."⟩,
    ⟨.inherited, "is_late", "is_late", "Accessor for `late`."⟩]

theorem entries_follow_declaration_visit :
    visit.derive = .ok derivedVisit ∧ visit.inOne.derive = .ok derivedVisit ∧
    derivedVisit.entityName = (lastText? "name" visit.items).getD "Visit" := by
  have h : visit.derive = .ok derivedVisit := by decide +kernel
  obtain ⟨-, ⟨-, hname, -⟩, -, hsame⟩ := entries_follow_declaration h
  exact ⟨h, hsame visit.inOne visit.inOne_sameAs, hname⟩

end EntityQuery
