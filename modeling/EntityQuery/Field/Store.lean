import EntityQuery.Field.Descriptor
import EntityQuery.Telemetry.Journal

/-!
The descriptor store, and resolving an accessor through it. A store keeps one descriptor per
fingerprint, in order of publication; an entry is never replaced or removed, so its place
identifies it for good. A reference is a descriptor together with that place.

```
resolve:  accessor → key → fingerprint → entry found      hit
                                       → entry appended   miss
                   → no key                               failed, the store is left alone
```
-/

namespace EntityQuery.Field

open EntityQuery.Telemetry

/-- A descriptor as a store hands it out. -/
structure Reference where
  /-- The number of the store. -/
  store : Nat
  /-- The place of the entry. -/
  slot : Nat
  descriptor : Descriptor
deriving DecidableEq

/-- Whether two references are to the same entry of the same store. -/
def Reference.same (r s : Reference) : Bool := r.store == s.store && r.slot == s.slot

/-- Descriptors in order of publication, and how often one was found or computed. -/
structure Store where
  id : Nat
  entries : List Descriptor := []
  hits : Nat := 0
  misses : Nat := 0
deriving DecidableEq

namespace Store

/-- The number of descriptors. -/
def size (s : Store) : Nat := s.entries.length

/-- The entry under a fingerprint. -/
def find? (s : Store) (fingerprint : Digest) : Option Reference :=
  match s.entries.findIdx? (·.fingerprint == fingerprint) with
  | none => none
  | some slot => s.entries[slot]?.map fun descriptor => ⟨s.id, slot, descriptor⟩

/-- The store with one more entry. -/
def publish (s : Store) (descriptor : Descriptor) : Store :=
  { s with entries := s.entries ++ [descriptor], misses := s.misses + 1 }

/-- The store after an entry was found. -/
def countHit (s : Store) : Store := { s with hits := s.hits + 1 }

/-- The entry of a key of an entity, computed if it is not there, and whether it was. -/
def intern (s : Store) (entity : EntityModel) (key : Key) (fingerprint : Digest) :
    Reference × Bool × Store :=
  match s.find? fingerprint with
  | some reference => (reference, true, s.countHit)
  | none =>
    let descriptor := Descriptor.ofKey entity key fingerprint
    (⟨s.id, s.size, descriptor⟩, false, s.publish descriptor)

end Store

/-! ### Log lines -/

/-- The line for an accessor that leads to no field. -/
def failureLine (entity : EntityModel) (error : ResolutionError) : LogLine :=
  ⟨.warn, "accessor resolution failed",
    [("entity", entity.entityName), ("error", error.message)]⟩

/-- The line for a descriptor found in the store. -/
def hitLine (d : Descriptor) : LogLine :=
  ⟨.trace, "accessor cache hit", [("fingerprint", d.fingerprint.shortHex), ("field", d.name)]⟩

/-- The line for a descriptor just computed. -/
def missLine (d : Descriptor) : LogLine :=
  ⟨.debug, "accessor resolved",
    [("fingerprint", d.fingerprint.shortHex), ("entity", d.entity.entityName),
      ("accessor", d.key.method), ("field", d.name)]⟩

/-! ### Resolution -/

/-- The reference that an accessor of an entity leads to, with the store and the journal after. -/
def resolve (entity : Entity) (accessor : Accessor) (store : Store) (journal : Journal) :
    Except ResolutionError Reference × Store × Journal :=
  match accessor.key entity.typeName with
  | .error e =>
    (.error e, store, journal.add (.resolved entity.path .failed) (failureLine entity.model e))
  | .ok key =>
    match store.intern entity.model key (fingerprint key entity.typeName) with
    | (reference, true, store) =>
      (.ok reference, store,
        journal.add (.resolved entity.path .hit) (hitLine reference.descriptor))
    | (reference, false, store) =>
      (.ok reference, store,
        journal.add (.resolved entity.path .miss) (missLine reference.descriptor))

end EntityQuery.Field
