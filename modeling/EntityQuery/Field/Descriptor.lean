import EntityQuery.Digest
import EntityQuery.Field.Key
import EntityQuery.Field.Name
import EntityQuery.Model

/-!
Descriptors: what is known of a field that an accessor leads to. A descriptor is identified by the
digest of its key and of the entity it was resolved for. The digest is taken of a text in which
every part carries a tag and its length, so that no two triples of texts are written alike.
-/

namespace EntityQuery.Field

/-- The UTF-8 bytes of a text. -/
def utf8 (s : String) : List UInt8 := s.toUTF8.data.toList

/-- A part of a tagged text: its tag, its length in eight bytes, its bytes. -/
def taggedPart (tag : UInt8) (s : String) : List UInt8 :=
  tag :: bigEndian 8 (utf8 s).length ++ utf8 s

/-- The bytes that stand for a key and a signature. -/
def fingerprintBytes (key : Key) (signature : String) : List UInt8 :=
  utf8 "fieldfp:v1" ++ taggedPart 1 key.declaring ++ taggedPart 2 key.method ++
    taggedPart 3 signature

/-- The digest that identifies a key resolved for the type with the given signature. -/
def fingerprint (key : Key) (signature : String) : Digest :=
  Digest.ofBytes (fingerprintBytes key signature)

/-- What is known of a field. -/
structure Descriptor where
  fingerprint : Digest
  entity : EntityModel
  key : Key
  /-- The name in queries. -/
  name : String
  temporal : Option TemporalKind
deriving DecidableEq

/-- The descriptor of a key of an entity. A field that the model does not have is not temporal. -/
def Descriptor.ofKey (entity : EntityModel) (key : Key) (fingerprint : Digest) : Descriptor :=
  let name := nameOfMethod key.method
  { fingerprint, entity, key, name, temporal := (entity.field? name).bind (·.temporal) }

end EntityQuery.Field
