/-
# Daphne.Messages.Laws — the codec laws of every `messages.rs` message

`MessageType` names the message types of `messages.rs` that implement `Encode` and `Decode`, with
each one's carrier, codec and validity (only the HPKE identifiers, and the configuration holding
them, restrict their values), and with the values whose variable-length fields fit their length
prefixes (`Fits`). `MessageType.exact` gathers the per-type `exact` lemmas and `MessageType.sized`
the per-type `sized` lemmas; the laws follow from them for every message type at once:

* `decode_encode_append`: a value that fits its prefixes has an encoding, and that encoding
  followed by any bytes decodes back to the value and stops at those bytes, so `get_decoded` of
  the encoding returns the value;
* `encode_decode_prefix`: the bytes a successful decode consumed are the encoding of what it
  returned.

`Daphne.Taskprov.Laws` adds the truncation law, for these types and the taskprov ones together.
-/
import Daphne.Messages.Collect

namespace Daphne.Messages

set_option autoImplicit false

/-- The message types of `messages.rs` with `Encode` and `Decode` implementations. -/
inductive MessageType where
  | id | nonce | extension | reportMetadata | report | reportShare | batchParameter
  | aggregateInitializeReq | aggregateContinueReq | transition | transitionVar
  | transitionFailure | aggregateResp | interval | query | collectReq | collectResp
  | aggregateShareReq | aggregateShareResp | hpkeKemId | hpkeKdfId | hpkeAeadId | hpkeConfig
  | hpkeCiphertext
  deriving DecidableEq, Repr

namespace MessageType

/-- The type a message type stands for. -/
def Carrier : MessageType → Type
  | id => Id
  | nonce => Nonce
  | extension => Extension
  | reportMetadata => ReportMetadata
  | report => Report
  | reportShare => ReportShare
  | batchParameter => BatchParameter
  | aggregateInitializeReq => AggregateInitializeReq
  | aggregateContinueReq => AggregateContinueReq
  | transition => Transition
  | transitionVar => TransitionVar
  | transitionFailure => TransitionFailure
  | aggregateResp => AggregateResp
  | interval => Interval
  | query => Query
  | collectReq => CollectReq
  | collectResp => CollectResp
  | aggregateShareReq => AggregateShareReq
  | aggregateShareResp => AggregateShareResp
  | hpkeKemId => HpkeKemId
  | hpkeKdfId => HpkeKdfId
  | hpkeAeadId => HpkeAeadId
  | hpkeConfig => HpkeConfig
  | hpkeCiphertext => HpkeCiphertext

/-- The type's `Encode` implementation; `none` where it panics. -/
def encode : (m : MessageType) → m.Carrier → Option Bytes
  | id => fun x => some (Id.encode x)
  | nonce => fun x => some (Nonce.encode x)
  | extension => Extension.encode
  | reportMetadata => ReportMetadata.encode
  | report => Report.encode
  | reportShare => ReportShare.encode
  | batchParameter => fun x => some (BatchParameter.encode x)
  | aggregateInitializeReq => AggregateInitializeReq.encode
  | aggregateContinueReq => AggregateContinueReq.encode
  | transition => Transition.encode
  | transitionVar => TransitionVar.encode
  | transitionFailure => fun x => some (TransitionFailure.encode x)
  | aggregateResp => AggregateResp.encode
  | interval => fun x => some (Interval.encode x)
  | query => fun x => some (Query.encode x)
  | collectReq => CollectReq.encode
  | collectResp => CollectResp.encode
  | aggregateShareReq => AggregateShareReq.encode
  | aggregateShareResp => AggregateShareResp.encode
  | hpkeKemId => fun x => some (HpkeKemId.encode x)
  | hpkeKdfId => fun x => some (HpkeKdfId.encode x)
  | hpkeAeadId => fun x => some (HpkeAeadId.encode x)
  | hpkeConfig => HpkeConfig.encode
  | hpkeCiphertext => HpkeCiphertext.encode

/-- The type's `Decode` implementation. -/
def decode : (m : MessageType) → Decoder m.Carrier
  | id => Id.decode
  | nonce => Nonce.decode
  | extension => Extension.decode
  | reportMetadata => ReportMetadata.decode
  | report => Report.decode
  | reportShare => ReportShare.decode
  | batchParameter => BatchParameter.decode
  | aggregateInitializeReq => AggregateInitializeReq.decode
  | aggregateContinueReq => AggregateContinueReq.decode
  | transition => Transition.decode
  | transitionVar => TransitionVar.decode
  | transitionFailure => TransitionFailure.decode
  | aggregateResp => AggregateResp.decode
  | interval => Interval.decode
  | query => Query.decode
  | collectReq => CollectReq.decode
  | collectResp => CollectResp.decode
  | aggregateShareReq => AggregateShareReq.decode
  | aggregateShareResp => AggregateShareResp.decode
  | hpkeKemId => HpkeKemId.decode
  | hpkeKdfId => HpkeKdfId.decode
  | hpkeAeadId => HpkeAeadId.decode
  | hpkeConfig => HpkeConfig.decode
  | hpkeCiphertext => HpkeCiphertext.decode

/-- The values the codec carries faithfully: every `NotImplemented(x)` HPKE code is unnamed. -/
def Valid : (m : MessageType) → m.Carrier → Prop
  | hpkeKemId => HpkeKemId.Valid
  | hpkeKdfId => HpkeKdfId.Valid
  | hpkeAeadId => HpkeAeadId.Valid
  | hpkeConfig => HpkeConfig.Valid
  | _ => fun _ => True

/-- The variable-length fields fit their prefixes: byte strings and item lists after a `u16`
length take at most 65535 bytes, those after a `u32` length at most 2^32 - 1. The types with no
such field fit always. -/
def Fits : (m : MessageType) → m.Carrier → Prop
  | extension => Extension.Fits
  | reportMetadata => ReportMetadata.Fits
  | report => Report.Fits
  | reportShare => ReportShare.Fits
  | aggregateInitializeReq => AggregateInitializeReq.Fits
  | aggregateContinueReq => AggregateContinueReq.Fits
  | transition => Transition.Fits
  | transitionVar => TransitionVar.Fits
  | aggregateResp => AggregateResp.Fits
  | collectReq => CollectReq.Fits
  | collectResp => CollectResp.Fits
  | aggregateShareReq => AggregateShareReq.Fits
  | aggregateShareResp => AggregateShareResp.Fits
  | hpkeConfig => HpkeConfig.Fits
  | hpkeCiphertext => HpkeCiphertext.Fits
  | _ => fun _ => True

/-- The length of a value's encoding. -/
def size : (m : MessageType) → m.Carrier → Nat
  | id => fun x => (Id.encode x).length
  | nonce => fun x => (Nonce.encode x).length
  | extension => Extension.size
  | reportMetadata => ReportMetadata.size
  | report => Report.size
  | reportShare => ReportShare.size
  | batchParameter => fun x => (BatchParameter.encode x).length
  | aggregateInitializeReq => AggregateInitializeReq.size
  | aggregateContinueReq => AggregateContinueReq.size
  | transition => Transition.size
  | transitionVar => TransitionVar.size
  | transitionFailure => fun x => (TransitionFailure.encode x).length
  | aggregateResp => AggregateResp.size
  | interval => fun x => (Interval.encode x).length
  | query => fun x => (Query.encode x).length
  | collectReq => CollectReq.size
  | collectResp => CollectResp.size
  | aggregateShareReq => AggregateShareReq.size
  | aggregateShareResp => AggregateShareResp.size
  | hpkeKemId => fun x => (HpkeKemId.encode x).length
  | hpkeKdfId => fun x => (HpkeKdfId.encode x).length
  | hpkeAeadId => fun x => (HpkeAeadId.encode x).length
  | hpkeConfig => HpkeConfig.size
  | hpkeCiphertext => HpkeCiphertext.size

/-- Every message type's encoder writes each value that fits its prefixes. -/
theorem sized : ∀ m : MessageType, SizedOn m.Fits m.size m.encode
  | id => .of_total Id.encode
  | nonce => .of_total Nonce.encode
  | extension => Extension.sized
  | reportMetadata => ReportMetadata.sized
  | report => Report.sized
  | reportShare => ReportShare.sized
  | batchParameter => .of_total BatchParameter.encode
  | aggregateInitializeReq => AggregateInitializeReq.sized
  | aggregateContinueReq => AggregateContinueReq.sized
  | transition => Transition.sized
  | transitionVar => TransitionVar.sized
  | transitionFailure => .of_total TransitionFailure.encode
  | aggregateResp => AggregateResp.sized
  | interval => .of_total Interval.encode
  | query => .of_total Query.encode
  | collectReq => CollectReq.sized
  | collectResp => CollectResp.sized
  | aggregateShareReq => AggregateShareReq.sized
  | aggregateShareResp => AggregateShareResp.sized
  | hpkeKemId => .of_total HpkeKemId.encode
  | hpkeKdfId => .of_total HpkeKdfId.encode
  | hpkeAeadId => .of_total HpkeAeadId.encode
  | hpkeConfig => HpkeConfig.sized
  | hpkeCiphertext => HpkeCiphertext.sized

/-- Every message type's decoder accepts exactly the encodings of its valid values. -/
theorem exact : ∀ m : MessageType, ExactOn m.Valid m.encode m.decode
  | id => Id.exact.exactOn
  | nonce => Nonce.exact.exactOn
  | extension => Extension.exact
  | reportMetadata => ReportMetadata.exact
  | report => Report.exact
  | reportShare => ReportShare.exact
  | batchParameter => BatchParameter.exact.exactOn
  | aggregateInitializeReq => AggregateInitializeReq.exact
  | aggregateContinueReq => AggregateContinueReq.exact
  | transition => Transition.exact
  | transitionVar => TransitionVar.exact
  | transitionFailure => TransitionFailure.exact.exactOn
  | aggregateResp => AggregateResp.exact
  | interval => Interval.exact.exactOn
  | query => Query.exact.exactOn
  | collectReq => CollectReq.exact
  | collectResp => CollectResp.exact
  | aggregateShareReq => AggregateShareReq.exact
  | aggregateShareResp => AggregateShareResp.exact
  | hpkeKemId => HpkeKemId.exact
  | hpkeKdfId => HpkeKdfId.exact
  | hpkeAeadId => HpkeAeadId.exact
  | hpkeConfig => HpkeConfig.exact
  | hpkeCiphertext => HpkeCiphertext.exact

/-- Round trip: a message whose variable-length fields fit their prefixes and whose HPKE codes
are valid has an encoding, and decodes back from it followed by any bytes, with the cursor left
at those bytes; `get_decoded` of the encoding alone returns the message. -/
theorem decode_encode_append (m : MessageType) (x : m.Carrier) (fits : m.Fits x)
    (known : m.Valid x) (rest : Bytes) :
    ∃ p, m.encode x = some p ∧ m.decode (p ++ rest) = .ok (x, rest) ∧
      getDecoded m.decode p = .ok x :=
  have ⟨p, encoded, _⟩ := sized m x fits
  have parses := ExactOn.parses (exact m) known encoded
  ⟨p, encoded, parses rest, getDecoded_of_parses parses⟩

/-- A round trip on a configuration whose KEM code is not implemented: `0x1234` travels as is. -/
theorem decode_encode_append_hpkeConfig :
    HpkeConfig.Fits ⟨7, .notImplemented 0x1234, .hkdfSha256, .aes128Gcm, [0xAB]⟩ ∧
    HpkeConfig.Valid ⟨7, .notImplemented 0x1234, .hkdfSha256, .aes128Gcm, [0xAB]⟩ ∧
    ∃ p, hpkeConfig.encode
        (⟨7, .notImplemented 0x1234, .hkdfSha256, .aes128Gcm, [0xAB]⟩ : HpkeConfig) = some p ∧
      hpkeConfig.decode (p ++ [0xFF]) =
        .ok ((⟨7, .notImplemented 0x1234, .hkdfSha256, .aes128Gcm, [0xAB]⟩ : HpkeConfig), [0xFF]) ∧
      getDecoded hpkeConfig.decode p =
        .ok (⟨7, .notImplemented 0x1234, .hkdfSha256, .aes128Gcm, [0xAB]⟩ : HpkeConfig) :=
  have fits : HpkeConfig.Fits ⟨7, .notImplemented 0x1234, .hkdfSha256, .aes128Gcm, [0xAB]⟩ := by
    decide
  have known : HpkeConfig.Valid ⟨7, .notImplemented 0x1234, .hkdfSha256, .aes128Gcm, [0xAB]⟩ := by
    decide
  ⟨fits, known, decode_encode_append hpkeConfig ⟨7, .notImplemented 0x1234, .hkdfSha256,
    .aes128Gcm, [0xAB]⟩ fits known [0xFF]⟩

/-- Canonical encoding: whatever a decoder accepts starts with the encoding of the value it
returned, and it consumed exactly that encoding. -/
theorem encode_decode_prefix (m : MessageType) (b : Bytes) (x : m.Carrier) (rest : Bytes)
    (decoded : m.decode b = .ok (x, rest)) : ∃ p, b = p ++ rest ∧ m.encode x = some p := by
  obtain ⟨p, encoded, rfl⟩ := ExactOn.canonical (exact m) decoded
  exact ⟨p, rfl, encoded⟩

/-- An unknown KEM code read from the wire is written back as it was read. -/
theorem encode_decode_prefix_hpkeKemId :
    hpkeKemId.decode [0x12, 0x34, 0xFF] = .ok (HpkeKemId.notImplemented 0x1234, [0xFF]) ∧
    ∃ p, [0x12, 0x34, 0xFF] = p ++ [0xFF] ∧ hpkeKemId.encode (HpkeKemId.notImplemented 0x1234) = some p :=
  ⟨rfl, encode_decode_prefix hpkeKemId [0x12, 0x34, 0xFF] _ [0xFF] rfl⟩

end MessageType

end Daphne.Messages
