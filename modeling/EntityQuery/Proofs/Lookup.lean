import EntityQuery.Stream.Program

/-!
Lookups: an accessor together with the entity it is used on. A store hands out, for a lookup, the
entry under the fingerprint of its key; that entry may have been computed for another lookup. It is
the descriptor that the lookup itself leads to as long as the digests of the lookups that occur do
not collide and a type name belongs to one entity: the name is hashed, the model is not.

```
lookup → key → fingerprint → entry of the store
           ↘ describe ↗      (the same, for lookups that are told apart)
```
-/

namespace EntityQuery

open EntityQuery.Field EntityQuery.Telemetry

/-- An accessor used on an entity. -/
structure Lookup where
  entity : Entity
  accessor : Accessor
deriving DecidableEq

namespace Lookup

/-- The key that the accessor comes down to. -/
def key (l : Lookup) : Except ResolutionError Key := l.accessor.key l.entity.typeName

/-- The digest that the store is asked for, if the accessor leads to a field. -/
def fingerprint? (l : Lookup) : Option Digest :=
  l.key.toOption.map fun k => fingerprint k l.entity.typeName

/-- What is known of the field, computed without a store. -/
def describe (l : Lookup) : Except ResolutionError Descriptor :=
  l.key.map fun k => .ofKey l.entity.model k (fingerprint k l.entity.typeName)

/-- The reference is filed under the fingerprint of the lookup. -/
def Marks (l : Lookup) (r : Reference) : Prop := l.fingerprint? = some r.descriptor.fingerprint

/-- The lookup is one of those known, and the reference carries what it leads to. -/
def Finds (known : List Lookup) (l : Lookup) (r : Reference) : Prop :=
  l ∈ known ∧ l.describe = .ok r.descriptor

theorem describe_ok {l : Lookup} {d : Descriptor} (h : l.describe = .ok d) :
    ∃ k, l.key = .ok k ∧ d = .ofKey l.entity.model k (fingerprint k l.entity.typeName) := by
  unfold describe at h
  cases hk : l.key with
  | error e => simp [hk, Except.map] at h
  | ok k =>
    simp only [hk, Except.map, Except.ok.injEq] at h
    exact ⟨k, rfl, h.symm⟩

theorem describe_entity {l : Lookup} {d : Descriptor} (h : l.describe = .ok d) :
    d.entity = l.entity.model := by
  obtain ⟨k, -, rfl⟩ := describe_ok h
  rfl

/-- A descriptor has the fingerprint of its lookup. -/
theorem describe_fingerprint {l : Lookup} {d : Descriptor} (h : l.describe = .ok d) :
    l.fingerprint? = some d.fingerprint := by
  obtain ⟨k, hk, rfl⟩ := describe_ok h
  rw [fingerprint?, hk]
  rfl

/-- Whether a field holds a time or a date is a matter of its name and of the model. -/
theorem describe_temporal {l : Lookup} {d : Descriptor} (h : l.describe = .ok d) {k : Key}
    (hk : l.key = .ok k) :
    d.temporal = (l.entity.model.field? (nameOfMethod k.method)).bind (·.temporal) := by
  obtain ⟨k', hk', rfl⟩ := describe_ok h
  obtain rfl : k = k' := Except.ok.inj (hk.symm.trans hk')
  rfl

/-- A lookup leads to what its key, its type name and its model say. -/
theorem describe_congr {l l' : Lookup} (hkey : l.key = l'.key)
    (htype : l.entity.typeName = l'.entity.typeName) (hmodel : l.entity.model = l'.entity.model) :
    l.describe = l'.describe := by
  rw [describe, describe, hkey, htype, hmodel]

end Lookup

/-- A lookup that has led to something has a key. -/
theorem Lookup.Marks.key {l : Lookup} {r : Reference} (h : l.Marks r) : ∃ k, l.key = .ok k := by
  rw [Lookup.Marks, Lookup.fingerprint?] at h
  cases hk : l.key with
  | error e => rw [hk] at h; cases h
  | ok k => exact ⟨k, rfl⟩

/-- Lookups without a collision: two of them have the same digest only if what is hashed for them is
the same. -/
def CollisionFree (known : List Lookup) : Prop :=
  ∀ l ∈ known, ∀ l' ∈ known, ∀ digest, l.fingerprint? = some digest →
    l'.fingerprint? = some digest → l.key = l'.key ∧ l.entity.typeName = l'.entity.typeName

/-- Lookups whose entities are told apart by their type names. The model is not hashed, so this does
not follow from there being no collision. -/
def WellTyped (known : List Lookup) : Prop :=
  ∀ l ∈ known, ∀ l' ∈ known, l.entity.typeName = l'.entity.typeName →
    l.entity.model = l'.entity.model

/-- Lookups that fingerprints tell apart: there is no collision among them, and a type name belongs
to one entity. -/
structure Separated (known : List Lookup) : Prop where
  digests : CollisionFree known
  types : WellTyped known

/-- Of separated lookups, the fingerprint alone decides what they lead to. -/
theorem Separated.describe_eq {known : List Lookup} (h : Separated known) {l l' : Lookup}
    (hl : l ∈ known) (hl' : l' ∈ known) {d d' : Descriptor} (hd : l.describe = .ok d)
    (hd' : l'.describe = .ok d') (hf : d.fingerprint = d'.fingerprint) : d = d' := by
  have hmark := Lookup.describe_fingerprint hd
  rw [hf] at hmark
  obtain ⟨hkey, htype⟩ := h.digests l hl l' hl' _ hmark (Lookup.describe_fingerprint hd')
  have hsame := Lookup.describe_congr hkey htype (h.types l hl l' hl' htype)
  exact Except.ok.inj (hd.symm.trans (hsame.trans hd'))

/-- A single lookup needs no telling apart. -/
theorem separated_singleton (l : Lookup) : Separated [l] where
  digests := by
    intro l₁ h₁ l₂ h₂ _ _ _
    rw [List.mem_singleton.mp h₁, List.mem_singleton.mp h₂]
    exact ⟨rfl, rfl⟩
  types := by
    intro l₁ h₁ l₂ h₂ _
    rw [List.mem_singleton.mp h₁, List.mem_singleton.mp h₂]

/-- Lookups of two fields have no collision if the two have different digests. -/
theorem collisionFree_of_two {known : List Lookup} {a b : Lookup}
    (hne : a.fingerprint? ≠ b.fingerprint?)
    (h : ∀ l ∈ known, l.fingerprint? ≠ none →
      (l.key = a.key ∧ l.entity.typeName = a.entity.typeName) ∨
        (l.key = b.key ∧ l.entity.typeName = b.entity.typeName)) : CollisionFree known := by
  have hsame : ∀ {l c : Lookup}, l.key = c.key ∧ l.entity.typeName = c.entity.typeName →
      l.fingerprint? = c.fingerprint? := by
    intro l c ⟨hkey, htype⟩
    rw [Lookup.fingerprint?, Lookup.fingerprint?, hkey, htype]
  intro l hl l' hl' digest hd hd'
  rcases h l hl (by simp [hd]) with hfst | hfst <;> rcases h l' hl' (by simp [hd']) with hsnd | hsnd
  · exact ⟨hfst.1.trans hsnd.1.symm, hfst.2.trans hsnd.2.symm⟩
  · exact absurd ((hsame hfst).symm.trans (hd.trans (hd'.symm.trans (hsame hsnd)))) hne
  · exact absurd ((hsame hsnd).symm.trans (hd'.trans (hd.symm.trans (hsame hfst)))) hne
  · exact ⟨hfst.1.trans hsnd.1.symm, hfst.2.trans hsnd.2.symm⟩

/-- An entity to try programs on: staff, who report to staff. -/
def staff : Entity where
  typeName := "app::Staff"
  model := ⟨"app::Staff", "Staff", "staff", [⟨"reports", "reports", "reports", none⟩]⟩

/-- The one accessor that programs on staff use. -/
def reports : Accessor := .declared "reports"

/-- The field that it leads to, of a given instance. -/
def reportsOf (owner : Alias) : ScopedField :=
  ⟨⟨0, 0, ⟨Digest.initial, staff.model, ⟨"app::Staff", "reports"⟩, "reports", none⟩⟩, owner⟩

/-- Tickets on paper. -/
def paperTicket : Entity where
  typeName := "app::Ticket"
  model := ⟨"app::Ticket", "Ticket", "tickets",
    [⟨"code", "code", "paper_code", none⟩, ⟨"issuer", "issuer", "issuer", none⟩]⟩

/-- Tickets on a phone. Their type has the same name. -/
def phoneTicket : Entity where
  typeName := "app::Ticket"
  model := ⟨"app::Ticket", "Ticket", "tickets", [⟨"code", "code", "phone_code", some .time⟩]⟩

/-- The accessor of a ticket's code. -/
def ticketCode : Accessor := .declared "code"

/-- The accessor of a ticket's issuer. -/
def ticketIssuer : Accessor := .declared "issuer"

/-- A workspace in which nothing has happened yet. -/
def untouched : Workspace := { store := { id := 0 } }

/-! ### What a store hands out -/

namespace Field.Store

theorem find?_spec {s : Store} {fp : Digest} {r : Reference} (h : s.find? fp = some r) :
    r.descriptor ∈ s.entries ∧ r.descriptor.fingerprint = fp := by
  unfold find? at h
  split at h
  · cases h
  next slot hs =>
    obtain ⟨hlt, hfp, -⟩ := List.findIdx?_eq_some_iff_getElem.mp hs
    rw [List.getElem?_eq_getElem hlt] at h
    obtain rfl : _ = r := by simpa using h
    exact ⟨List.getElem_mem hlt, by simpa using hfp⟩

/-- The entry that is handed out lies in the store afterwards, under the fingerprint asked for. -/
theorem intern_spec (s : Store) (m : EntityModel) (k : Key) (fp : Digest) :
    (s.intern m k fp).1.descriptor ∈ (s.intern m k fp).2.2.entries ∧
      (s.intern m k fp).1.descriptor.fingerprint = fp := by
  unfold intern
  split
  next r hr => exact find?_spec hr
  next => simp [publish, Descriptor.ofKey]

/-- Interning adds nothing to a store but the descriptor it computes. -/
theorem intern_entries (s : Store) (m : EntityModel) (k : Key) (fp : Digest) :
    ∀ d ∈ (s.intern m k fp).2.2.entries, d ∈ s.entries ∨ d = .ofKey m k fp := by
  intro d hd
  unfold intern at hd
  split at hd
  next => exact .inl hd
  next => simpa [publish] using hd

end Field.Store

/-- A key error is passed on, and the store left alone; a key is interned. -/
theorem resolve_eq (l : Lookup) (store : Store) (journal : Journal) :
    (Field.resolve l.entity l.accessor store journal).1 =
        l.key.map (fun k => (store.intern l.entity.model k (fingerprint k l.entity.typeName)).1) ∧
      (Field.resolve l.entity l.accessor store journal).2.1 =
        match l.key with
        | .error _ => store
        | .ok k => (store.intern l.entity.model k (fingerprint k l.entity.typeName)).2.2 := by
  unfold Field.resolve Lookup.key
  cases l.accessor.key l.entity.typeName with
  | error e => exact ⟨rfl, rfl⟩
  | ok k =>
    dsimp only [Except.map]
    rcases store.intern l.entity.model k (fingerprint k l.entity.typeName) with ⟨r, _ | _, s⟩ <;>
      exact ⟨rfl, rfl⟩

/-- The store after a lookup: that of before if there is no key, or with the key interned. -/
theorem resolve_store (l : Lookup) (w : Workspace) :
    (w.resolve l.entity l.accessor).2.store =
      match l.key with
      | .error _ => w.store
      | .ok k => (w.store.intern l.entity.model k (fingerprint k l.entity.typeName)).2.2 :=
  (resolve_eq l w.store w.journal).2

/-- A lookup ends in an error exactly with its key. -/
theorem resolve_result (l : Lookup) (w : Workspace) :
    (w.resolve l.entity l.accessor).1 = l.key.map fun k =>
      (w.store.intern l.entity.model k (fingerprint k l.entity.typeName)).1 :=
  (resolve_eq l w.store w.journal).1

/-- What a lookup hands out is what its key is interned to. -/
theorem resolve_handed {l : Lookup} {w : Workspace} {r : Reference}
    (h : (w.resolve l.entity l.accessor).1 = .ok r) : ∃ k, l.key = .ok k ∧
      r = (w.store.intern l.entity.model k (fingerprint k l.entity.typeName)).1 := by
  rw [resolve_result] at h
  cases hk : l.key with
  | error e => rw [hk] at h; cases h
  | ok k => rw [hk] at h; exact ⟨k, rfl, (Except.ok.inj h).symm⟩

/-- A lookup that leads to a key hands out something, whatever the store holds. -/
theorem resolve_ok {l : Lookup} {k : Key} (hk : l.key = .ok k) (w : Workspace) :
    ∃ r w', w.resolve l.entity l.accessor = (.ok r, w') := by
  have h := resolve_result l w
  rw [hk] at h
  exact ⟨_, _, Prod.ext h rfl⟩

/-- A field of a stream is what its lookup hands out, bound to the instance of the stream. -/
theorem field_bound {w w' : Workspace} {s : Stream} {accessor : Accessor} {r : Reference}
    (h : w.resolve s.entity accessor = (.ok r, w')) : w.field s accessor = (.ok (s.bind r), w') := by
  rw [Workspace.field, h]
  rfl

/-- Stores that lookups have filled, one after the other, from an empty one on. -/
inductive Filled (known : List Lookup) : Store → Prop
  | empty (id : Nat) : Filled known { id }
  | resolve {store : Store} {l : Lookup} (journal : Journal) :
      Filled known store → l ∈ known →
      Filled known (Field.resolve l.entity l.accessor store journal).2.1

/-- Each entry of a filled store is what some lookup leads to. -/
theorem Filled.described {known : List Lookup} {store : Store} (h : Filled known store) :
    ∀ d ∈ store.entries, ∃ l ∈ known, l.describe = .ok d := by
  induction h with
  | empty id => intro d hd; cases hd
  | @resolve store l journal _ hl ih =>
    intro d hd
    rw [(resolve_eq l store journal).2] at hd
    cases hk : l.key with
    | error e => rw [hk] at hd; exact ih d hd
    | ok k =>
      rw [hk] at hd
      rcases Field.Store.intern_entries _ _ _ _ d hd with hd | rfl
      · exact ih d hd
      · exact ⟨l, hl, by rw [Lookup.describe, hk]; rfl⟩

theorem filled_untouched (known : List Lookup) : Filled known untouched.store := .empty 0

/-! ### Lookups made by calls -/

/-- What can be said of the references handed out for known lookups, as long as the store is as it
should be, and that lookups leave it so. -/
structure Trusted (Known : Lookup → Prop) (Good : Store → Prop)
    (Means : Lookup → Reference → Prop) : Prop where
  keeps : ∀ l, Known l → ∀ w : Workspace, Good w.store →
    Good (w.resolve l.entity l.accessor).2.store
  means : ∀ l, Known l → ∀ w : Workspace, Good w.store → ∀ r,
    (w.resolve l.entity l.accessor).1 = .ok r → Means l r

/-- Whatever a store holds, it hands out what is filed under the fingerprint asked for. -/
theorem trusted_marks : Trusted (fun _ => True) (fun _ => True) Lookup.Marks where
  keeps _ _ _ _ := trivial
  means l _ w _ r h := by
    obtain ⟨k, hk, rfl⟩ := resolve_handed h
    rw [Lookup.Marks, Lookup.fingerprint?, hk]
    simp [Except.toOption, (Field.Store.intern_spec ..).2]

/-- A store that separated lookups have filled hands out what the lookup leads to. -/
theorem trusted_finds {known : List Lookup} (hsep : Separated known) :
    Trusted (· ∈ known) (Filled known) (Lookup.Finds known) where
  keeps l hl w hw := .resolve w.journal hw hl
  means l hl w hw r h := by
    have hfill := Filled.resolve w.journal hw hl
    obtain ⟨k, hk, rfl⟩ := resolve_handed h
    obtain ⟨hmem, hfp⟩ :=
      Field.Store.intern_spec w.store l.entity.model k (fingerprint k l.entity.typeName)
    obtain ⟨l', hl', hd'⟩ := hfill.described _ (by
      rw [(resolve_eq l w.store w.journal).2, hk]; exact hmem)
    have hd : l.describe = .ok (.ofKey l.entity.model k (fingerprint k l.entity.typeName)) := by
      rw [Lookup.describe, hk]; rfl
    exact ⟨hl, by rw [hd, hsep.describe_eq hl hl' hd hd' (by rw [hfp]; rfl)]⟩

end EntityQuery
