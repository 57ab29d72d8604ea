import EntityQuery.Field.Descriptor
import Mathlib.Algebra.Group.Nat.Defs
import Mathlib.Data.List.Basic

/-!
Encoding of what is hashed and of what the hash gives. Each text is written behind its tag and its
length, so the next part begins where the length says, whatever bytes the text itself has; and the
digits of a digest come in blocks of one width. So the display text of a fingerprint tells its digest,
and the bytes of a digest's message tell its three texts: only a collision of the hash confuses two.

```
ab, c    01 ‥2 61 62  02 ‥1 63        a, bc    01 ‥1 61  02 ‥2 62 63
```
-/

namespace EntityQuery

/-! ### Numbers and digits -/

theorem length_bigEndian : ∀ width n : Nat, (bigEndian width n).length = width
  | 0, _ => rfl
  | width + 1, n => by rw [bigEndian, List.length_append, length_bigEndian, List.length_singleton]

/-- Numbers that have room in the bytes are told apart. -/
theorem bigEndian_inj : ∀ {width n m : Nat}, n < 256 ^ width → m < 256 ^ width →
    bigEndian width n = bigEndian width m → n = m
  | 0, n, m, hn, hm, _ => by omega
  | width + 1, n, m, hn, hm, h => by
    obtain ⟨hhigh, hlow⟩ := List.append_inj' h rfl
    rw [Nat.pow_succ] at hn hm
    have hquotient : n / 256 = m / 256 :=
      bigEndian_inj (Nat.div_lt_of_lt_mul (by omega)) (Nat.div_lt_of_lt_mul (by omega)) hhigh
    have hremainder : n % 256 = m % 256 := by
      have hbyte := congrArg UInt8.toNat (List.singleton_inj.mp hlow)
      simpa using hbyte
    omega

/-- Blocks of one width tell what they stand for. -/
theorem flatMap_inj {α β : Type} {f : α → List β} {width : Nat} (hpos : 0 < width)
    (hwidth : ∀ a, (f a).length = width) (hinj : ∀ a b, f a = f b → a = b) :
    ∀ {l m : List α}, l.flatMap f = m.flatMap f → l = m
  | [], [], _ => rfl
  | [], b :: m, h => by
    have hlength := congrArg List.length h
    rw [List.flatMap_cons, List.length_append, hwidth, List.flatMap_nil, List.length_nil] at hlength
    omega
  | a :: l, [], h => by
    have hlength := congrArg List.length h
    rw [List.flatMap_cons, List.length_append, hwidth, List.flatMap_nil, List.length_nil] at hlength
    omega
  | a :: l, b :: m, h => by
    rw [List.flatMap_cons, List.flatMap_cons] at h
    obtain ⟨hfirst, hrest⟩ := List.append_inj h ((hwidth a).trans (hwidth b).symm)
    rw [hinj a b hfirst, flatMap_inj hpos hwidth hinj hrest]

namespace Digest

theorem hexDigit_inj : ∀ n < 16, ∀ m < 16, hexDigit n = hexDigit m → n = m := by
  decide

theorem hexByte_inj (b c : UInt8) (h : hexByte b = hexByte c) : b = c := by
  obtain ⟨hhigh, hlow⟩ := List.cons.inj h
  have hb := b.toNat_lt
  have hc := c.toNat_lt
  have hquotient := hexDigit_inj _ (by omega) _ (by omega) hhigh
  have hremainder := hexDigit_inj _ (by omega) _ (by omega) (List.singleton_inj.mp hlow)
  exact UInt8.toNat_inj.mp (by omega)

theorem words_inj {s t : Digest} (h : s.words = t.words) : s = t := by
  cases s
  cases t
  simpa [words] using h

/-- The display text of a digest tells the digest. -/
theorem hex_inj {s t : Digest} (h : s.hex = t.hex) : s = t := by
  have hdigits : s.hexDigits = t.hexDigits := String.ofList_inj.mp h
  have hbytes : s.bytes = t.bytes := flatMap_inj (by decide : 0 < 2) (fun _ => rfl) hexByte_inj hdigits
  have hword : ∀ w v : UInt32, bigEndian 4 w.toNat = bigEndian 4 v.toNat → w = v := fun w v h =>
    UInt32.toNat_inj.mp (bigEndian_inj w.toNat_lt v.toNat_lt h)
  exact words_inj (flatMap_inj (by decide : 0 < 4) (fun _ => length_bigEndian 4 _) hword hbytes)

end Digest

/-! ### The bytes of three texts -/

namespace Field

theorem utf8_inj {s t : String} (h : utf8 s = utf8 t) : s = t :=
  String.toByteArray_inj.mp (ByteArray.ext (Array.toList_inj.mp h))

/-- A text whose length in bytes can be written in eight of them. -/
def Fits (s : String) : Prop := (utf8 s).length < 2 ^ 64

instance (s : String) : Decidable (Fits s) := inferInstanceAs (Decidable (_ < _))

/-- A part tells its text, whatever stands behind it. -/
theorem taggedPart_append_inj {tag : UInt8} {s t : String} {rest rest' : List UInt8} (hs : Fits s)
    (ht : Fits t) (h : taggedPart tag s ++ rest = taggedPart tag t ++ rest') : s = t ∧ rest = rest' := by
  unfold taggedPart at h
  rw [List.append_assoc, List.append_assoc] at h
  obtain ⟨hlength, h⟩ := List.append_inj (List.cons.inj h).2
    ((length_bigEndian 8 _).trans (length_bigEndian 8 _).symm)
  obtain ⟨hbytes, hrest⟩ := List.append_inj h (bigEndian_inj hs ht hlength)
  exact ⟨utf8_inj hbytes, hrest⟩

/-- The three texts of which a fingerprint is taken have writable lengths. -/
structure Encodable (k : Key) (signature : String) : Prop where
  declaring : Fits k.declaring
  method : Fits k.method
  signature : Fits signature

/-- The bytes of a message tell the key and the signature. -/
theorem fingerprintBytes_inj {k l : Key} {s t : String} (hk : Encodable k s) (hl : Encodable l t)
    (h : fingerprintBytes k s = fingerprintBytes l t) : k = l ∧ s = t := by
  unfold fingerprintBytes at h
  rw [List.append_assoc, List.append_assoc, List.append_assoc, List.append_assoc] at h
  have h := List.append_cancel_left h
  obtain ⟨hdeclaring, h⟩ := taggedPart_append_inj hk.declaring hl.declaring h
  obtain ⟨hmethod, h⟩ := taggedPart_append_inj hk.method hl.method h
  have hsignature : taggedPart 3 s ++ [] = taggedPart 3 t ++ [] := by
    rw [List.append_nil, List.append_nil, h]
  refine ⟨?_, (taggedPart_append_inj hk.signature hl.signature hsignature).1⟩
  cases k
  cases l
  cases hdeclaring
  cases hmethod
  rfl

/-- FINGERPRINTS: two fingerprints have the same display text only if they are of the same declaring
type, method and signature, or if the messages that were hashed are two that collide. -/
theorem fingerprints_separate_keys {k l : Key} {s t : String} (hk : Encodable k s)
    (hl : Encodable l t) :
    ((fingerprint k s).hex = (fingerprint l t).hex →
      (k.declaring = l.declaring ∧ k.method = l.method ∧ s = t) ∨
      (fingerprintBytes k s ≠ fingerprintBytes l t ∧
        Digest.ofBytes (fingerprintBytes k s) = Digest.ofBytes (fingerprintBytes l t))) ∧
    (fingerprintBytes k s = fingerprintBytes l t ↔ k = l ∧ s = t) ∧
    ∀ d e : Digest, d.hex = e.hex ↔ d = e := by
  have hbytes : fingerprintBytes k s = fingerprintBytes l t ↔ k = l ∧ s = t := by
    refine ⟨fingerprintBytes_inj hk hl, ?_⟩
    rintro ⟨rfl, rfl⟩
    rfl
  refine ⟨fun h => ?_, hbytes, fun d e => ⟨Digest.hex_inj, congrArg _⟩⟩
  rcases eq_or_ne (fingerprintBytes k s) (fingerprintBytes l t) with heq | hne
  · obtain ⟨rfl, rfl⟩ := hbytes.mp heq
    exact .inl ⟨rfl, rfl, rfl⟩
  · exact .inr ⟨hne, Digest.hex_inj h⟩

/-- Texts that differ in where one ends and the next begins have fingerprints that differ. -/
theorem fingerprints_separate_keys_shifted :
    Encodable ⟨"ab", "c"⟩ "d" ∧ Encodable ⟨"a", "bc"⟩ "d" ∧
    fingerprintBytes ⟨"ab", "c"⟩ "d" ≠ fingerprintBytes ⟨"a", "bc"⟩ "d" ∧
    (fingerprint ⟨"ab", "c"⟩ "d").hex ≠ (fingerprint ⟨"a", "bc"⟩ "d").hex := by
  have hk : Encodable ⟨"ab", "c"⟩ "d" := ⟨by decide, by decide, by decide⟩
  have hl : Encodable ⟨"a", "bc"⟩ "d" := ⟨by decide, by decide, by decide⟩
  obtain ⟨hseparate, hbytes, -⟩ := fingerprints_separate_keys hk hl
  refine ⟨hk, hl, fun h => absurd (hbytes.mp h).1 (by decide), fun h => ?_⟩
  rcases hseparate h with ⟨hdeclaring, -, -⟩ | ⟨-, hcollide⟩
  · exact absurd hdeclaring (by decide)
  · exact absurd hcollide (by decide +kernel)

end Field

end EntityQuery
