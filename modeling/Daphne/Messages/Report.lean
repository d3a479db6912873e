/-
# Daphne.Messages.Report — identifiers, report metadata, reports and report shares

`Id` and `Nonce` are raw `[u8; 32]` and `[u8; 16]`; `Extension` carries its payload after a `u16`
length; `ReportMetadata` lists its extensions after their `u16` byte length; `Report` and
`ReportShare` put their public share after a `u32` length and, for a report, the input-share
ciphertexts after their `u32` byte length.

Each type's `exact` says its decoder accepts exactly the encodings of its values. `Extension.item`
and `ReportShare.item` are the item decoders the list loops run.
-/
import Daphne.Messages.Hpke

namespace Daphne.Messages

set_option autoImplicit false

open Decoder

/-! ## Identifiers -/

/-- The identifier for a DAP task (also for aggregation jobs and batches): `[u8; 32]`. -/
abbrev Id := FixedBytes 32

/-- `Encode for Id`. -/
def Id.encode (id : Id) : Bytes := id.bytes

/-- `Decode for Id`. -/
def Id.decode : Decoder Id := decodeFixedBytes 32

theorem Id.exact : Exact Id.encode Id.decode := exact_decodeFixedBytes 32

/-- The nonce sent in a `Report`: `[u8; 16]`. -/
abbrev Nonce := FixedBytes 16

/-- `Encode for Nonce`. -/
def Nonce.encode (nonce : Nonce) : Bytes := nonce.bytes

/-- `Decode for Nonce`. -/
def Nonce.decode : Decoder Nonce := decodeFixedBytes 16

theorem Nonce.exact : Exact Nonce.encode Nonce.decode := exact_decodeFixedBytes 16

/-! ## Extensions and metadata -/

/-- Report extensions. -/
inductive Extension where
  | unhandled (typ : UInt16) (payload : Bytes)
  deriving DecidableEq, Repr

namespace Extension

/-- `Encode for Extension`. -/
def encode : Extension → Option Bytes
  | unhandled typ payload => do
    let payload ← encodeU16Bytes payload
    pure (encodeU16 typ ++ payload)

/-- `Decode for Extension`. -/
def decode : Decoder Extension := do
  let typ ← decodeU16
  let payload ← decodeU16Bytes
  pure (unhandled typ payload)

theorem exact : ExactOn (fun _ => True) encode decode := by
  intro b extension rest
  simp only [decode, bind_eq_ok, pure_eq_ok, exact_decodeU16, exact_decodeU16Bytes, true_and]
  constructor
  · rintro ⟨typ, _, rfl, payload, _, ⟨p, hp, rfl⟩, rfl, rfl⟩
    exact ⟨encodeU16 typ ++ p, by simp [encode, hp], by simp⟩
  · rintro ⟨p, hp, rfl⟩
    cases extension with
    | unhandled typ payload =>
      simp only [encode, bind, Option.bind_eq_some, pure, Option.some.injEq] at hp
      obtain ⟨p, hp, rfl⟩ := hp
      simp only [List.append_assoc]
      exact ⟨_, _, rfl, _, _, ⟨_, hp, rfl⟩, rfl, rfl⟩

/-- Every encoding starts with the two-byte type, so the item loop always moves on. -/
def item : ItemDecoder Extension :=
  .ofExactOn exact fun {extension p} encoded => by
    cases extension
    simp only [encode, bind, Option.bind_eq_some, pure, Option.some.injEq] at encoded
    obtain ⟨_, _, rfl⟩ := encoded
    simp only [List.length_append, encodeU16, encodeBE_length]
    omega

theorem exact_items :
    ExactOn (fun xs => ∀ x ∈ xs, True) (encodeU16Items encode) (decodeU16Items item) :=
  exact_decodePrefixedItems 2 item exact

/-- The payload fits its `u16` length. -/
def Fits : Extension → Prop
  | unhandled _ payload => payload.length < 256 ^ 2

instance : DecidablePred Fits
  | unhandled _ _ => inferInstanceAs (Decidable (_ < _))

/-- The length of the encoding: the type, then the payload after its length. -/
def size : Extension → Nat
  | unhandled _ payload => 2 + (2 + payload.length)

theorem sized : SizedOn Fits size encode := by
  rintro ⟨typ, payload⟩ fits
  obtain ⟨p, encoded, length⟩ := sized_encodePrefixedBytes 2 _ fits
  simp_arith [encode, encodeU16Bytes, encoded, size, length, encodeU16]

end Extension

/-- Report metadata. -/
structure ReportMetadata where
  time : UInt64
  nonce : Nonce
  extensions : List Extension
  deriving DecidableEq, Repr

namespace ReportMetadata

/-- `Encode for ReportMetadata`. -/
def encode (metadata : ReportMetadata) : Option Bytes := do
  let extensions ← encodeU16Items Extension.encode metadata.extensions
  pure (encodeU64 metadata.time ++ metadata.nonce.encode ++ extensions)

/-- `Decode for ReportMetadata`. -/
def decode : Decoder ReportMetadata := do
  let time ← decodeU64
  let nonce ← Nonce.decode
  let extensions ← decodeU16Items Extension.item
  pure { time, nonce, extensions }

theorem exact : ExactOn (fun _ => True) encode decode := by
  intro b metadata rest
  simp only [decode, bind_eq_ok, pure_eq_ok, exact_decodeU64, Nonce.exact, Extension.exact_items,
    true_and, implies_true]
  constructor
  · rintro ⟨time, _, rfl, nonce, _, rfl, extensions, _, ⟨p, hp, rfl⟩, rfl, rfl⟩
    exact ⟨encodeU64 time ++ nonce.encode ++ p, by simp [encode, hp], by simp⟩
  · rintro ⟨p, hp, rfl⟩
    simp only [encode, bind, Option.bind_eq_some, pure, Option.some.injEq] at hp
    obtain ⟨p, hp, rfl⟩ := hp
    simp only [List.append_assoc]
    exact ⟨_, _, rfl, _, _, rfl, _, _, ⟨_, hp, rfl⟩, rfl, rfl⟩

/-- The extensions fit their `u16` byte length. -/
def Fits (metadata : ReportMetadata) : Prop :=
  ItemsFit Extension.Fits Extension.size 2 metadata.extensions

instance : DecidablePred Fits := fun _ => inferInstanceAs (Decidable (ItemsFit _ _ _ _))

/-- The length of the encoding: the time, the nonce, the extensions after their byte length. -/
def size (metadata : ReportMetadata) : Nat :=
  8 + 16 + (2 + itemsLength Extension.size metadata.extensions)

theorem sized : SizedOn Fits size encode := by
  intro metadata fits
  obtain ⟨p, encoded, length⟩ := sized_encodePrefixedItems 2 Extension.sized _ fits
  simp_arith [encode, encodeU16Items, encoded, size, length, encodeU64, Nonce.encode,
    metadata.nonce.length_eq]

end ReportMetadata

/-! ## Reports -/

/-- A report generated by a client. -/
structure Report where
  taskId : Id
  metadata : ReportMetadata
  publicShare : Bytes
  encryptedInputShares : List HpkeCiphertext
  deriving DecidableEq, Repr

namespace Report

/-- `Encode for Report`. -/
def encode (report : Report) : Option Bytes := do
  let metadata ← report.metadata.encode
  let publicShare ← encodeU32Bytes report.publicShare
  let shares ← encodeU32Items HpkeCiphertext.encode report.encryptedInputShares
  pure (report.taskId.encode ++ metadata ++ publicShare ++ shares)

/-- `Decode for Report`. -/
def decode : Decoder Report := do
  let taskId ← Id.decode
  let metadata ← ReportMetadata.decode
  let publicShare ← decodeU32Bytes
  let encryptedInputShares ← decodeU32Items HpkeCiphertext.item
  pure { taskId, metadata, publicShare, encryptedInputShares }

theorem exact : ExactOn (fun _ => True) encode decode := by
  intro b report rest
  simp only [decode, bind_eq_ok, pure_eq_ok, Id.exact, ReportMetadata.exact, exact_decodeU32Bytes,
    HpkeCiphertext.exact_items, true_and, implies_true]
  constructor
  · rintro ⟨taskId, _, rfl, metadata, _, ⟨m, hm, rfl⟩, publicShare, _, ⟨p, hp, rfl⟩, shares, _,
      ⟨s, hs, rfl⟩, rfl, rfl⟩
    exact ⟨taskId.encode ++ m ++ p ++ s, by simp [encode, hm, hp, hs], by simp⟩
  · rintro ⟨p, hp, rfl⟩
    simp only [encode, bind, Option.bind_eq_some, pure, Option.some.injEq] at hp
    obtain ⟨m, hm, p, hp, s, hs, rfl⟩ := hp
    simp only [List.append_assoc]
    exact ⟨_, _, rfl, _, _, ⟨_, hm, rfl⟩, _, _, ⟨_, hp, rfl⟩, _, _, ⟨_, hs, rfl⟩, rfl, rfl⟩

/-- The metadata fits its prefixes, the public share its `u32` length, and the input shares
their `u32` byte length. -/
def Fits (report : Report) : Prop :=
  report.metadata.Fits ∧ report.publicShare.length < 256 ^ 4 ∧
    ItemsFit HpkeCiphertext.Fits HpkeCiphertext.size 4 report.encryptedInputShares

instance : DecidablePred Fits := fun _ => inferInstanceAs (Decidable (_ ∧ _ ∧ _))

/-- The length of the encoding. -/
def size (report : Report) : Nat :=
  32 + report.metadata.size + (4 + report.publicShare.length) +
    (4 + itemsLength HpkeCiphertext.size report.encryptedInputShares)

theorem sized : SizedOn Fits size encode := by
  rintro report ⟨fitsMetadata, fitsShare, fitsShares⟩
  obtain ⟨m, encodedMetadata, lengthMetadata⟩ := ReportMetadata.sized _ fitsMetadata
  obtain ⟨p, encodedShare, lengthShare⟩ := sized_encodePrefixedBytes 4 _ fitsShare
  obtain ⟨s, encodedShares, lengthShares⟩ :=
    sized_encodePrefixedItems 4 HpkeCiphertext.sized _ fitsShares
  simp_arith [encode, encodeU32Bytes, encodeU32Items, encodedMetadata, encodedShare, encodedShares,
    size, lengthMetadata, lengthShare, lengthShares, Id.encode, report.taskId.length_eq]

end Report

/-- An initial aggregate sub-request sent in an `AggregateInitializeReq`; it pertains to a single
report. -/
structure ReportShare where
  metadata : ReportMetadata
  publicShare : Bytes
  encryptedInputShare : HpkeCiphertext
  deriving DecidableEq, Repr

namespace ReportShare

/-- `Encode for ReportShare`. -/
def encode (share : ReportShare) : Option Bytes := do
  let metadata ← share.metadata.encode
  let publicShare ← encodeU32Bytes share.publicShare
  let ciphertext ← share.encryptedInputShare.encode
  pure (metadata ++ publicShare ++ ciphertext)

/-- `Decode for ReportShare`. -/
def decode : Decoder ReportShare := do
  let metadata ← ReportMetadata.decode
  let publicShare ← decodeU32Bytes
  let encryptedInputShare ← HpkeCiphertext.decode
  pure { metadata, publicShare, encryptedInputShare }

theorem exact : ExactOn (fun _ => True) encode decode := by
  intro b share rest
  simp only [decode, bind_eq_ok, pure_eq_ok, ReportMetadata.exact, exact_decodeU32Bytes,
    HpkeCiphertext.exact, true_and]
  constructor
  · rintro ⟨metadata, _, ⟨m, hm, rfl⟩, publicShare, _, ⟨p, hp, rfl⟩, ciphertext, _, ⟨c, hc, rfl⟩,
      rfl, rfl⟩
    exact ⟨m ++ p ++ c, by simp [encode, hm, hp, hc], by simp⟩
  · rintro ⟨p, hp, rfl⟩
    simp only [encode, bind, Option.bind_eq_some, pure, Option.some.injEq] at hp
    obtain ⟨m, hm, p, hp, c, hc, rfl⟩ := hp
    simp only [List.append_assoc]
    exact ⟨_, _, ⟨_, hm, rfl⟩, _, _, ⟨_, hp, rfl⟩, _, _, ⟨_, hc, rfl⟩, rfl, rfl⟩

/-- Every encoding starts with the metadata's eight-byte time, so the item loop always moves on. -/
def item : ItemDecoder ReportShare :=
  .ofExactOn exact fun {share p} encoded => by
    simp only [encode, ReportMetadata.encode, bind, Option.bind_eq_some, pure,
      Option.some.injEq] at encoded
    obtain ⟨_, ⟨_, _, rfl⟩, _, _, _, _, rfl⟩ := encoded
    simp only [List.length_append, encodeU64, encodeBE_length]
    omega

theorem exact_items :
    ExactOn (fun xs => ∀ x ∈ xs, True) (encodeU32Items encode) (decodeU32Items item) :=
  exact_decodePrefixedItems 4 item exact

/-- The metadata and the ciphertext fit their prefixes, the public share its `u32` length. -/
def Fits (share : ReportShare) : Prop :=
  share.metadata.Fits ∧ share.publicShare.length < 256 ^ 4 ∧ share.encryptedInputShare.Fits

instance : DecidablePred Fits := fun _ => inferInstanceAs (Decidable (_ ∧ _ ∧ _))

/-- The length of the encoding. -/
def size (share : ReportShare) : Nat :=
  share.metadata.size + (4 + share.publicShare.length) + share.encryptedInputShare.size

theorem sized : SizedOn Fits size encode := by
  rintro share ⟨fitsMetadata, fitsShare, fitsCiphertext⟩
  obtain ⟨m, encodedMetadata, lengthMetadata⟩ := ReportMetadata.sized _ fitsMetadata
  obtain ⟨p, encodedShare, lengthShare⟩ := sized_encodePrefixedBytes 4 _ fitsShare
  obtain ⟨c, encodedCiphertext, lengthCiphertext⟩ := HpkeCiphertext.sized _ fitsCiphertext
  simp_arith [encode, encodeU32Bytes, encodedMetadata, encodedShare, encodedCiphertext, size,
    lengthMetadata, lengthShare, lengthCiphertext]

end ReportShare

end Daphne.Messages
