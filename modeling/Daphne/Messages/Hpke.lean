/-
# Daphne.Messages.Hpke — HPKE identifiers, configurations and ciphertexts

`HpkeKemId`, `HpkeKdfId` and `HpkeAeadId` are one family: a `u16` code point with named values and
a `NotImplemented(x)` variant that keeps any other code. `decodeCodePoint` is the family's decoder
and `exact_decodeCodePoint` its one law; each identifier applies them to its own table.

A `NotImplemented(x)` whose `x` is a named code encodes to that code and decodes to the named
variant, so the identifiers round-trip exactly on the values `Valid` admits; every decoded
identifier is valid. `HpkeConfig` and `HpkeCiphertext` are exact on valid values in the same sense
(`HpkeConfig.exact`, `HpkeCiphertext.exact`).
-/
import Daphne.Codec.Items

namespace Daphne.Messages

set_option autoImplicit false

open Decoder

/-- `KEM_ID_X25519_HKDF_SHA256`. -/
def kemIdX25519HkdfSha256 : UInt16 := 0x0020
/-- `KEM_ID_P256_HKDF_SHA256`. -/
def kemIdP256HkdfSha256 : UInt16 := 0x0010
/-- `KDF_ID_HKDF_SHA256`. -/
def kdfIdHkdfSha256 : UInt16 := 0x0001
/-- `AEAD_ID_AES128GCM`. -/
def aeadIdAes128Gcm : UInt16 := 0x0001

/-! ## Code points -/

section CodePoint

variable {β : Type}

/-- The value a code names: the first entry of `named` with that code, and `NotImplemented(x)`
when there is none. -/
def codePointOf (named : List (UInt16 × β)) (notImplemented : UInt16 → β) (x : UInt16) : β :=
  named.foldr (fun entry rest => if x = entry.1 then entry.2 else rest) (notImplemented x)

/-- The decoders of the three identifiers: read a `u16` and take the value it names. -/
def decodeCodePoint (named : List (UInt16 × β)) (notImplemented : UInt16 → β) : Decoder β := do
  let x ← decodeU16
  pure (codePointOf named notImplemented x)

theorem codePointOf_code {named : List (UInt16 × β)} {notImplemented : UInt16 → β}
    {toU16 : β → UInt16} (named_code : ∀ entry ∈ named, toU16 entry.2 = entry.1)
    (notImplemented_code : ∀ x, toU16 (notImplemented x) = x) (x : UInt16) :
    toU16 (codePointOf named notImplemented x) = x := by
  induction named with
  | nil => exact notImplemented_code x
  | cons entry named ih =>
    simp only [codePointOf, List.foldr_cons] at ih ⊢
    split
    · rename_i same
      rw [same, named_code entry (by simp)]
    · exact ih fun e he => named_code e (by simp [he])

/-- A code point decodes exactly the codes of the values it gives back: `Valid v` must say that
the value `v`'s code names is `v`. -/
theorem exact_decodeCodePoint {named : List (UInt16 × β)} {notImplemented : UInt16 → β}
    {toU16 : β → UInt16} {Valid : β → Prop}
    (named_code : ∀ entry ∈ named, toU16 entry.2 = entry.1)
    (notImplemented_code : ∀ x, toU16 (notImplemented x) = x)
    (valid_iff : ∀ v, Valid v ↔ codePointOf named notImplemented (toU16 v) = v) :
    ExactOn Valid (fun v => some (encodeU16 (toU16 v))) (decodeCodePoint named notImplemented) := by
  intro b v rest
  simp only [decodeCodePoint, bind_eq_ok, pure_eq_ok, exact_decodeU16, Option.some.injEq,
    valid_iff]
  constructor
  · rintro ⟨x, _, rfl, rfl, rfl⟩
    rw [codePointOf_code named_code notImplemented_code]
    exact ⟨rfl, _, rfl, rfl⟩
  · rintro ⟨valid, _, rfl, rfl⟩
    exact ⟨toU16 v, _, rfl, valid, rfl⟩

end CodePoint

/-! ## The identifiers -/

/-- Codepoint for KEM schemes compatible with HPKE. -/
inductive HpkeKemId where
  | p256HkdfSha256
  | x25519HkdfSha256
  | notImplemented (x : UInt16)
  deriving DecidableEq, Repr

namespace HpkeKemId

/-- `From<HpkeKemId> for u16`. -/
def toU16 : HpkeKemId → UInt16
  | p256HkdfSha256 => kemIdP256HkdfSha256
  | x25519HkdfSha256 => kemIdX25519HkdfSha256
  | notImplemented x => x

/-- `Encode for HpkeKemId`. -/
def encode (kemId : HpkeKemId) : Bytes := encodeU16 kemId.toU16

/-- `Decode for HpkeKemId`. -/
def decode : Decoder HpkeKemId :=
  decodeCodePoint [(kemIdP256HkdfSha256, p256HkdfSha256),
    (kemIdX25519HkdfSha256, x25519HkdfSha256)] notImplemented

/-- A KEM identifier the codec carries faithfully: `NotImplemented(x)` holds no named code. -/
def Valid : HpkeKemId → Prop
  | notImplemented x => x ≠ kemIdP256HkdfSha256 ∧ x ≠ kemIdX25519HkdfSha256
  | _ => True

instance (kemId : HpkeKemId) : Decidable kemId.Valid :=
  match kemId with
  | notImplemented _ => inferInstanceAs (Decidable (_ ∧ _))
  | p256HkdfSha256 => inferInstanceAs (Decidable True)
  | x25519HkdfSha256 => inferInstanceAs (Decidable True)

theorem exact : ExactOn Valid (fun kemId => some kemId.encode) decode :=
  exact_decodeCodePoint (by decide) (fun _ => rfl) fun v => by
    cases v with
    | notImplemented x =>
      by_cases h1 : x = kemIdP256HkdfSha256 <;> by_cases h2 : x = kemIdX25519HkdfSha256 <;>
        simp_all [Valid, toU16, codePointOf, kemIdP256HkdfSha256, kemIdX25519HkdfSha256]
    | _ => decide

end HpkeKemId

/-- Codepoint for KDF schemes compatible with HPKE. -/
inductive HpkeKdfId where
  | hkdfSha256
  | notImplemented (x : UInt16)
  deriving DecidableEq, Repr

namespace HpkeKdfId

/-- `From<HpkeKdfId> for u16`. -/
def toU16 : HpkeKdfId → UInt16
  | hkdfSha256 => kdfIdHkdfSha256
  | notImplemented x => x

/-- `Encode for HpkeKdfId`. -/
def encode (kdfId : HpkeKdfId) : Bytes := encodeU16 kdfId.toU16

/-- `Decode for HpkeKdfId`. -/
def decode : Decoder HpkeKdfId :=
  decodeCodePoint [(kdfIdHkdfSha256, hkdfSha256)] notImplemented

/-- A KDF identifier the codec carries faithfully: `NotImplemented(x)` holds no named code. -/
def Valid : HpkeKdfId → Prop
  | notImplemented x => x ≠ kdfIdHkdfSha256
  | _ => True

instance (kdfId : HpkeKdfId) : Decidable kdfId.Valid :=
  match kdfId with
  | notImplemented _ => inferInstanceAs (Decidable (¬_ = _))
  | hkdfSha256 => inferInstanceAs (Decidable True)

theorem exact : ExactOn Valid (fun kdfId => some kdfId.encode) decode :=
  exact_decodeCodePoint (by decide) (fun _ => rfl) fun v => by
    cases v with
    | notImplemented x => by_cases h : x = kdfIdHkdfSha256 <;> simp_all [Valid, toU16, codePointOf]
    | _ => decide

end HpkeKdfId

/-- Codepoint for AEAD schemes compatible with HPKE. -/
inductive HpkeAeadId where
  | aes128Gcm
  | notImplemented (x : UInt16)
  deriving DecidableEq, Repr

namespace HpkeAeadId

/-- `From<HpkeAeadId> for u16`. -/
def toU16 : HpkeAeadId → UInt16
  | aes128Gcm => aeadIdAes128Gcm
  | notImplemented x => x

/-- `Encode for HpkeAeadId`. -/
def encode (aeadId : HpkeAeadId) : Bytes := encodeU16 aeadId.toU16

/-- `Decode for HpkeAeadId`. -/
def decode : Decoder HpkeAeadId :=
  decodeCodePoint [(aeadIdAes128Gcm, aes128Gcm)] notImplemented

/-- An AEAD identifier the codec carries faithfully: `NotImplemented(x)` holds no named code. -/
def Valid : HpkeAeadId → Prop
  | notImplemented x => x ≠ aeadIdAes128Gcm
  | _ => True

instance (aeadId : HpkeAeadId) : Decidable aeadId.Valid :=
  match aeadId with
  | notImplemented _ => inferInstanceAs (Decidable (¬_ = _))
  | aes128Gcm => inferInstanceAs (Decidable True)

theorem exact : ExactOn Valid (fun aeadId => some aeadId.encode) decode :=
  exact_decodeCodePoint (by decide) (fun _ => rfl) fun v => by
    cases v with
    | notImplemented x => by_cases h : x = aeadIdAes128Gcm <;> simp_all [Valid, toU16, codePointOf]
    | _ => decide

end HpkeAeadId

/-! ## Configurations and ciphertexts -/

/-- The HPKE public key configuration of a Server. -/
structure HpkeConfig where
  id : UInt8
  kemId : HpkeKemId
  kdfId : HpkeKdfId
  aeadId : HpkeAeadId
  publicKey : Bytes
  deriving DecidableEq, Repr

namespace HpkeConfig

/-- `Encode for HpkeConfig`. -/
def encode (config : HpkeConfig) : Option Bytes := do
  let publicKey ← encodeU16Bytes config.publicKey
  pure (encodeU8 config.id ++ config.kemId.encode ++ config.kdfId.encode ++ config.aeadId.encode ++
    publicKey)

/-- `Decode for HpkeConfig`. -/
def decode : Decoder HpkeConfig := do
  let id ← decodeU8
  let kemId ← HpkeKemId.decode
  let kdfId ← HpkeKdfId.decode
  let aeadId ← HpkeAeadId.decode
  let publicKey ← decodeU16Bytes
  pure { id, kemId, kdfId, aeadId, publicKey }

/-- A configuration whose three identifiers are valid. -/
def Valid (config : HpkeConfig) : Prop :=
  config.kemId.Valid ∧ config.kdfId.Valid ∧ config.aeadId.Valid

instance (config : HpkeConfig) : Decidable config.Valid :=
  inferInstanceAs (Decidable (_ ∧ _ ∧ _))

theorem exact : ExactOn Valid encode decode := by
  intro b config rest
  simp only [decode, bind_eq_ok, pure_eq_ok, exact_decodeU8, HpkeKemId.exact, HpkeKdfId.exact,
    HpkeAeadId.exact, exact_decodeU16Bytes, Option.some.injEq, exists_eq_left', true_and]
  constructor
  · rintro ⟨id, _, rfl, kem, _, ⟨vk, rfl⟩, kdf, _, ⟨vd, rfl⟩, aead, _, ⟨va, rfl⟩, pk, _,
      ⟨p, hp, rfl⟩, rfl, rfl⟩
    exact ⟨⟨vk, vd, va⟩, encodeU8 id ++ kem.encode ++ kdf.encode ++ aead.encode ++ p,
      by simp [encode, hp], by simp⟩
  · rintro ⟨⟨vk, vd, va⟩, p, hp, rfl⟩
    simp only [encode, bind, Option.bind_eq_some, pure, Option.some.injEq] at hp
    obtain ⟨pk, hpk, rfl⟩ := hp
    simp only [List.append_assoc]
    exact ⟨_, _, rfl, _, _, ⟨vk, rfl⟩, _, _, ⟨vd, rfl⟩, _, _, ⟨va, rfl⟩, _, _, ⟨_, hpk, rfl⟩, rfl, rfl⟩

/-- The public key fits its `u16` length. -/
def Fits (config : HpkeConfig) : Prop := config.publicKey.length < 256 ^ 2

instance : DecidablePred Fits := fun _ => inferInstanceAs (Decidable (_ < _))

/-- The length of the encoding: the id, the three codes, the public key after its length. -/
def size (config : HpkeConfig) : Nat := 7 + (2 + config.publicKey.length)

theorem sized : SizedOn Fits size encode := by
  intro config fits
  obtain ⟨pk, encoded, length⟩ := sized_encodePrefixedBytes 2 _ fits
  simp_arith [encode, encodeU16Bytes, encoded, size, length, encodeU8, HpkeKemId.encode,
    HpkeKdfId.encode, HpkeAeadId.encode, encodeU16]

end HpkeConfig

/-- An HPKE ciphertext. In the DAP protocol, input shares and aggregate shares are encrypted to
the intended recipient. -/
structure HpkeCiphertext where
  configId : UInt8
  enc : Bytes
  payload : Bytes
  deriving DecidableEq, Repr

namespace HpkeCiphertext

/-- `Encode for HpkeCiphertext`. -/
def encode (ciphertext : HpkeCiphertext) : Option Bytes := do
  let enc ← encodeU16Bytes ciphertext.enc
  let payload ← encodeU32Bytes ciphertext.payload
  pure (encodeU8 ciphertext.configId ++ enc ++ payload)

/-- `Decode for HpkeCiphertext`. -/
def decode : Decoder HpkeCiphertext := do
  let configId ← decodeU8
  let enc ← decodeU16Bytes
  let payload ← decodeU32Bytes
  pure { configId, enc, payload }

theorem exact : ExactOn (fun _ => True) encode decode := by
  intro b ciphertext rest
  simp only [decode, bind_eq_ok, pure_eq_ok, exact_decodeU8, exact_decodeU16Bytes,
    exact_decodeU32Bytes, true_and]
  constructor
  · rintro ⟨configId, _, rfl, enc, _, ⟨e, he, rfl⟩, payload, _, ⟨p, hp, rfl⟩, rfl, rfl⟩
    exact ⟨encodeU8 configId ++ e ++ p, by simp [encode, he, hp], by simp⟩
  · rintro ⟨p, hp, rfl⟩
    simp only [encode, bind, Option.bind_eq_some, pure, Option.some.injEq] at hp
    obtain ⟨e, he, p, hp, rfl⟩ := hp
    simp only [List.append_assoc]
    exact ⟨_, _, rfl, _, _, ⟨_, he, rfl⟩, _, _, ⟨_, hp, rfl⟩, rfl, rfl⟩

/-- Every encoding starts with the configuration id, so the item loop always moves on. -/
def item : ItemDecoder HpkeCiphertext :=
  .ofExactOn exact fun {ciphertext p} encoded => by
    simp only [encode, bind, Option.bind_eq_some, pure, Option.some.injEq] at encoded
    obtain ⟨_, _, _, _, rfl⟩ := encoded
    simp only [List.length_append, encodeU8, encodeBE_length]
    omega

theorem exact_items :
    ExactOn (fun xs => ∀ x ∈ xs, True) (encodeU32Items encode) (decodeU32Items item) :=
  exact_decodePrefixedItems 4 item exact

/-- The encapsulated key fits its `u16` length and the payload its `u32` length. -/
def Fits (ciphertext : HpkeCiphertext) : Prop :=
  ciphertext.enc.length < 256 ^ 2 ∧ ciphertext.payload.length < 256 ^ 4

instance : DecidablePred Fits := fun _ => inferInstanceAs (Decidable (_ ∧ _))

/-- The length of the encoding: the configuration id, then `enc` and `payload` after their
lengths. -/
def size (ciphertext : HpkeCiphertext) : Nat :=
  1 + (2 + ciphertext.enc.length) + (4 + ciphertext.payload.length)

theorem sized : SizedOn Fits size encode := by
  rintro ciphertext ⟨fitsEnc, fitsPayload⟩
  obtain ⟨e, encodedEnc, lengthEnc⟩ := sized_encodePrefixedBytes 2 _ fitsEnc
  obtain ⟨p, encodedPayload, lengthPayload⟩ := sized_encodePrefixedBytes 4 _ fitsPayload
  simp_arith [encode, encodeU16Bytes, encodeU32Bytes, encodedEnc, encodedPayload, size, lengthEnc,
    lengthPayload, encodeU8]

end HpkeCiphertext

end Daphne.Messages
