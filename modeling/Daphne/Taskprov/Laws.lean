/-
# Daphne.Taskprov.Laws — the laws of the taskprov codecs, and truncation on the wire

`ConfigType` names the taskprov types with a versioned codec, and `UrlBytes`, whose codec is the
same under both drafts. From each type's `encodeWithParam_isSome`, `roundTrips` and `isLocal`:

* `ConfigType.decodeWithParam_encodeWithParam`: a configuration whose fields fit their prefixes
  (`ConfigType.Fits`) has an encoding; under Draft07, and under Draft02 for a configuration with
  no `NotImplemented` variant, that encoding followed by any bytes decodes back and the cursor
  stops at those bytes; under Draft02 a configuration with one is refused.
* `ConfigType.decodeWithParam_draft07_iff`: with each type's `sound` lemma, under Draft07 the
  decoders accept exactly those encodings. Under Draft02 the query configuration's decoder does
  not (`Daphne.Taskprov.Query`).

`WireType` puts the taskprov types under a draft next to the `messages.rs` message types, and
`WireType.getDecoded_strictPrefix` holds for all of them: `get_decoded` refuses every strict
prefix of an encoding that decodes back, because every decoder depends only on the bytes it
consumes.

`ItemType` names the types decoded as items of a list, and `ItemType.decodeItemsWhile_ends` says
that each item decoder consumes a byte on every success, so that the `decode_uN_items` loops over
them end on every byte string.
-/
import Daphne.Messages.Laws
import Daphne.Taskprov.Task

namespace Daphne.Taskprov

open Decoder

set_option autoImplicit false

/-- The taskprov types with an encoder and a decoder. -/
inductive ConfigType where
  | queryConfig | dpConfig | vdafTypeVar | vdafConfig | urlBytes | taskConfig
  deriving DecidableEq, Repr

namespace ConfigType

/-- The type a configuration type stands for. -/
def Carrier : ConfigType → Type
  | queryConfig => QueryConfig
  | dpConfig => DpConfig
  | vdafTypeVar => VdafTypeVar
  | vdafConfig => VdafConfig
  | urlBytes => UrlBytes
  | taskConfig => TaskConfig

/-- The type's `ParameterizedEncode<DapVersion>` (for `UrlBytes`, its `Encode`). -/
def encodeWithParam : (t : ConfigType) → DapVersion → t.Carrier → Option Bytes
  | queryConfig => QueryConfig.encodeWithParam
  | dpConfig => DpConfig.encodeWithParam
  | vdafTypeVar => VdafTypeVar.encodeWithParam
  | vdafConfig => VdafConfig.encodeWithParam
  | urlBytes => fun _ => UrlBytes.encode
  | taskConfig => TaskConfig.encodeWithParam

/-- The type's `ParameterizedDecode<DapVersion>` (for `UrlBytes`, its `Decode`). -/
def decodeWithParam : (t : ConfigType) → DapVersion → Decoder t.Carrier
  | queryConfig => QueryConfig.decodeWithParam
  | dpConfig => DpConfig.decodeWithParam
  | vdafTypeVar => VdafTypeVar.decodeWithParam
  | vdafConfig => VdafConfig.decodeWithParam
  | urlBytes => fun _ => UrlBytes.decode
  | taskConfig => TaskConfig.decodeWithParam

/-- Every `NotImplemented` variant carries a code no implemented variant has. -/
def Valid : (t : ConfigType) → t.Carrier → Prop
  | queryConfig => fun config => config.var.Valid
  | dpConfig => DpConfig.Valid
  | vdafTypeVar => VdafTypeVar.Valid
  | vdafConfig => VdafConfig.Valid
  | urlBytes => fun _ => True
  | taskConfig => TaskConfig.Valid

instance : (t : ConfigType) → DecidablePred t.Valid
  | queryConfig => fun config => inferInstanceAs (Decidable config.var.Valid)
  | dpConfig => inferInstanceAs (DecidablePred DpConfig.Valid)
  | vdafTypeVar => inferInstanceAs (DecidablePred VdafTypeVar.Valid)
  | vdafConfig => inferInstanceAs (DecidablePred VdafConfig.Valid)
  | urlBytes => fun _ => inferInstanceAs (Decidable True)
  | taskConfig => inferInstanceAs (DecidablePred TaskConfig.Valid)

/-- The variable-length fields fit their prefixes under the version (`TaskConfig.Fits`). -/
def Fits : (t : ConfigType) → DapVersion → t.Carrier → Prop
  | queryConfig => fun version config => config.var.Fits version
  | dpConfig => DpConfig.Fits
  | vdafTypeVar => VdafTypeVar.Fits
  | vdafConfig => VdafConfig.Fits
  | urlBytes => fun _ => UrlBytes.Fits
  | taskConfig => TaskConfig.Fits

instance : (t : ConfigType) → (version : DapVersion) → DecidablePred (t.Fits version)
  | queryConfig, version => fun config => inferInstanceAs (Decidable (config.var.Fits version))
  | dpConfig, version => inferInstanceAs (DecidablePred (DpConfig.Fits version))
  | vdafTypeVar, version => inferInstanceAs (DecidablePred (VdafTypeVar.Fits version))
  | vdafConfig, version => inferInstanceAs (DecidablePred (VdafConfig.Fits version))
  | urlBytes, _ => inferInstanceAs (DecidablePred UrlBytes.Fits)
  | taskConfig, version => inferInstanceAs (DecidablePred (TaskConfig.Fits version))

/-- The encoders write every value that fits its prefixes. -/
theorem encodeWithParam_isSome : ∀ (t : ConfigType) {version : DapVersion} {c : t.Carrier},
    t.Fits version c → (t.encodeWithParam version c).isSome
  | queryConfig, _, _, fits => QueryConfig.encodeWithParam_isSome fits
  | dpConfig, _, _, fits => DpConfig.encodeWithParam_isSome fits
  | vdafTypeVar, _, _, fits => VdafTypeVar.encodeWithParam_isSome fits
  | vdafConfig, _, _, fits => VdafConfig.encodeWithParam_isSome fits
  | urlBytes, _, url, fits =>
    have ⟨_, encoded, _⟩ := UrlBytes.sized url fits
    Option.isSome_iff_exists.mpr ⟨_, encoded⟩
  | taskConfig, _, _, fits => TaskConfig.encodeWithParam_isSome fits

/-- The value has no `NotImplemented` variant. -/
def implemented : (t : ConfigType) → t.Carrier → Bool
  | queryConfig => fun config => config.var.implemented
  | dpConfig => DpConfig.implemented
  | vdafTypeVar => VdafTypeVar.implemented
  | vdafConfig => VdafConfig.implemented
  | urlBytes => fun _ => true
  | taskConfig => TaskConfig.implemented

theorem roundTrips : ∀ (t : ConfigType) {version : DapVersion} {c : t.Carrier} {p : Bytes},
    t.Valid c → t.encodeWithParam version c = some p →
      RoundTrips version (t.implemented c) (t.decodeWithParam version) p c
  | queryConfig, _, _, _, known, encoded => QueryConfig.roundTrips known encoded
  | dpConfig, _, _, _, known, encoded => DpConfig.roundTrips known encoded
  | vdafTypeVar, _, _, _, known, encoded => VdafTypeVar.roundTrips known encoded
  | vdafConfig, _, _, _, known, encoded => VdafConfig.roundTrips known encoded
  | urlBytes, version, _, _, _, encoded =>
    .of_parses (ExactOn.parses UrlBytes.exact trivial encoded) version
  | taskConfig, _, _, _, known, encoded => TaskConfig.roundTrips known encoded

theorem isLocal : ∀ (t : ConfigType) (version : DapVersion), Local (t.decodeWithParam version)
  | queryConfig, version => QueryConfig.isLocal version
  | dpConfig, version => DpConfig.isLocal version
  | vdafTypeVar, version => VdafTypeVar.isLocal version
  | vdafConfig, version => VdafConfig.isLocal version
  | urlBytes, _ => ExactOn.isLocal UrlBytes.exact
  | taskConfig, version => TaskConfig.isLocal version

theorem sound_draft07 : ∀ t : ConfigType,
    Sound t.Valid (t.encodeWithParam .draft07) (t.decodeWithParam .draft07)
  | queryConfig => QueryConfig.sound_draft07
  | dpConfig => DpConfig.sound .draft07
  | vdafTypeVar => VdafTypeVar.sound .draft07
  | vdafConfig => VdafConfig.sound .draft07
  | urlBytes => UrlBytes.exact.sound
  | taskConfig => TaskConfig.sound_draft07

/-- The versioned round trip: a configuration whose variable-length fields fit their prefixes
and whose `NotImplemented` codes are unknown has an encoding, and decodes back from it followed by
any bytes, stopping at those bytes, under Draft07 or when it has no `NotImplemented` variant;
under Draft02 one with such a variant is refused. -/
theorem decodeWithParam_encodeWithParam (t : ConfigType) (version : DapVersion) (c : t.Carrier)
    (fits : t.Fits version c) (known : t.Valid c) (rest : Bytes) :
    ∃ p, t.encodeWithParam version c = some p ∧
      (version = .draft07 ∨ t.implemented c = true →
        t.decodeWithParam version (p ++ rest) = .ok (c, rest)) ∧
      (version = .draft02 → t.implemented c = false →
        ∃ e, t.decodeWithParam version (p ++ rest) = .error e) := by
  obtain ⟨p, encoded⟩ := Option.isSome_iff_exists.mp (t.encodeWithParam_isSome fits)
  have answer := t.roundTrips known encoded
  refine ⟨p, encoded, fun accepted => answer.parses accepted rest, ?_⟩
  rintro rfl refused
  rw [refused] at answer
  exact answer.refuses rest

/-- A differential privacy mechanism with an unknown code `0` and parameter `[0xAB]` round trips
under Draft07 and is refused under Draft02. -/
theorem decodeWithParam_encodeWithParam_notImplemented :
    (∃ p, dpConfig.encodeWithParam .draft07 (DpConfig.notImplemented 0 [0xAB]) = some p ∧
      dpConfig.decodeWithParam .draft07 (p ++ [7]) =
        .ok (DpConfig.notImplemented 0 [0xAB], [7])) ∧
    ∃ p, dpConfig.encodeWithParam .draft02 (DpConfig.notImplemented 0 [0xAB]) = some p ∧
      ∃ e, dpConfig.decodeWithParam .draft02 (p ++ [7]) = .error e :=
  have ⟨p, encoded07, accepted, _⟩ := decodeWithParam_encodeWithParam dpConfig .draft07
    (DpConfig.notImplemented 0 [0xAB]) (by decide) (by decide) [7]
  have ⟨q, encoded02, _, refused⟩ := decodeWithParam_encodeWithParam dpConfig .draft02
    (DpConfig.notImplemented 0 [0xAB]) (by decide) (by decide) [7]
  ⟨⟨p, encoded07, accepted (.inl rfl)⟩, q, encoded02, refused rfl rfl⟩

/-- Under Draft07 each taskprov decoder accepts exactly the encodings of the configurations whose
`NotImplemented` codes are unknown, followed by anything: what it accepts is well formed and is
consumed as that value's encoding, unlike Draft02's query configuration. -/
theorem decodeWithParam_draft07_iff (t : ConfigType) (b : Bytes) (c : t.Carrier) (rest : Bytes) :
    t.decodeWithParam .draft07 b = .ok (c, rest) ↔
      t.Valid c ∧ ∃ p, t.encodeWithParam .draft07 c = some p ∧ b = p ++ rest :=
  ExactOn.of_sound t.sound_draft07 fun known encoded =>
    (t.roundTrips known encoded).parses (.inl rfl)

end ConfigType

end Daphne.Taskprov

namespace Daphne

open Decoder Taskprov

set_option autoImplicit false

/-- A type the wire codec carries: a `messages.rs` message type, or a taskprov type under a
draft. -/
inductive WireType where
  | message (m : Messages.MessageType)
  | config (t : ConfigType) (version : DapVersion)

namespace WireType

/-- The values of a wire type. -/
def Carrier : WireType → Type
  | message m => m.Carrier
  | config t _ => t.Carrier

/-- The wire type's encoder. -/
def encode : (w : WireType) → w.Carrier → Option Bytes
  | message m => m.encode
  | config t version => t.encodeWithParam version

/-- The wire type's decoder. -/
def decode : (w : WireType) → Decoder w.Carrier
  | message m => m.decode
  | config t version => t.decodeWithParam version

/-- The values whose encodings decode back: valid codes, and under Draft02 no `NotImplemented`
variant. -/
def Accepted : (w : WireType) → w.Carrier → Prop
  | message m => m.Valid
  | config t version => fun c => t.Valid c ∧ (version = .draft07 ∨ t.implemented c = true)

theorem parses : ∀ (w : WireType) {x : w.Carrier} {p : Bytes},
    w.Accepted x → w.encode x = some p → Parses w.decode p x
  | message m, _, _, known, fits => ExactOn.parses (Messages.MessageType.exact m) known fits
  | config t _, _, _, ⟨known, accepted⟩, fits => (t.roundTrips known fits).parses accepted

theorem isLocal : ∀ w : WireType, Local w.decode
  | message m => ExactOn.isLocal (Messages.MessageType.exact m)
  | config t version => t.isLocal version

/-- Truncation is refused: for a value whose encoding decodes back, `get_decoded` fails on every
prefix of the encoding with one or more trailing bytes removed. -/
theorem getDecoded_strictPrefix (w : WireType) (x : w.Carrier) (p : Bytes)
    (fits : w.encode x = some p) (accepted : w.Accepted x) (q s : Bytes) (split : p = q ++ s)
    (cut : s ≠ []) : ∃ e, getDecoded w.decode q = .error e := by
  subst split
  exact getDecoded_truncated w.isLocal (w.parses accepted fits) cut

/-- `DpConfig::None` under Draft07 is its code and an empty u16-prefixed body, `[1, 0, 0]`; cut to
`[1, 0]` it is refused. -/
theorem getDecoded_strictPrefix_dpConfig :
    (config .dpConfig .draft07).encode DpConfig.none = some [1, 0, 0] ∧
    ∃ e, getDecoded (config .dpConfig .draft07).decode [1, 0] = .error e :=
  ⟨rfl, getDecoded_strictPrefix (config .dpConfig .draft07) DpConfig.none [1, 0, 0] rfl
    ⟨trivial, .inl rfl⟩ [1, 0] [0] rfl (by simp)⟩

end WireType

/-! ## The item types -/

/-- The types `messages.rs` and `taskprov.rs` decode as items of a list: `Extension` (the u16
items of `ReportMetadata`), `HpkeCiphertext`, `ReportShare` and `Transition` (u32 items),
`UrlBytes` (the Draft02 aggregator endpoints, u16 items) and `u8` (`task_info`, u8 items). -/
inductive ItemType where
  | extension | hpkeCiphertext | reportShare | transition | urlBytes | u8
  deriving DecidableEq, Repr

namespace ItemType

/-- The type an item type stands for. -/
def Carrier : ItemType → Type
  | extension => Messages.Extension
  | hpkeCiphertext => Messages.HpkeCiphertext
  | reportShare => Messages.ReportShare
  | transition => Messages.Transition
  | urlBytes => UrlBytes
  | u8 => UInt8

/-- The type's `Decode`, the one `decode_items` calls for each item. -/
def decode : (t : ItemType) → Decoder t.Carrier
  | extension => Messages.Extension.decode
  | hpkeCiphertext => Messages.HpkeCiphertext.decode
  | reportShare => Messages.ReportShare.decode
  | transition => Messages.Transition.decode
  | urlBytes => UrlBytes.decode
  | u8 => decodeU8

/-- The item decoder the model's item lists are decoded with. -/
def item : (t : ItemType) → ItemDecoder t.Carrier
  | extension => Messages.Extension.item
  | hpkeCiphertext => Messages.HpkeCiphertext.item
  | reportShare => Messages.ReportShare.item
  | transition => Messages.Transition.item
  | urlBytes => UrlBytes.item
  | u8 => u8Item

theorem item_decode : ∀ t : ItemType, t.item.decode = t.decode
  | extension | hpkeCiphertext | reportShare | transition | urlBytes | u8 => rfl

/-- Every item decoder consumes a byte each time it succeeds, on every input, since every
encoding of an item is nonempty. So `decode_u8_items`, `decode_u16_items` and `decode_u32_items`
over these types end on every byte string, their loop within as many rounds as the string has
bytes, with the items `decodePrefixedItems` returns: the bytes left in the window strictly
decrease with each item. -/
theorem decodeItemsWhile_ends (t : ItemType) :
    Consumes t.decode ∧ ∀ width bytes,
      decodePrefixedItemsWhile width t.decode bytes.length bytes =
        some (decodePrefixedItems width t.item bytes) :=
  t.item_decode ▸
    ⟨t.item.consumes, fun width _ => decodePrefixedItemsWhile_eq_some width t.item le_rfl⟩

end ItemType

end Daphne
