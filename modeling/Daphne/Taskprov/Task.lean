/-
# Daphne.Taskprov.Task — the task configuration

A `TaskConfig` is its `task_info` after a u8 length, the two aggregator endpoints, the query
configuration, the expiration time and the VDAF configuration. The endpoints are the one field
whose layout the version changes outside the query and VDAF configurations: a u16 list of exactly
two `UrlBytes` under Draft02 (`try_into` refuses any other count), the two one after the other under
Draft07. `TaskConfig.roundTrips` and `TaskConfig.isLocal` are assembled from the same lemmas of the
parts, and so is `TaskConfig.encodeWithParam_isSome`: the encoder panics on no configuration whose
`task_info`, endpoints and `NotImplemented` parameters fit their prefixes (`TaskConfig.Fits`).
-/
import Daphne.Taskprov.Query
import Daphne.Taskprov.Vdaf

namespace Daphne.Taskprov

open Decoder

set_option autoImplicit false

/-! ## Endpoints -/

/-- A URL encode / decode helper struct, essentially a box for a `Vec<u8>`. -/
structure UrlBytes where
  bytes : Bytes
  deriving DecidableEq, Repr

namespace UrlBytes

/-- `Encode for UrlBytes`. -/
def encode (url : UrlBytes) : Option Bytes := encodeU16Bytes url.bytes

/-- `Decode for UrlBytes`. -/
def decode : Decoder UrlBytes := UrlBytes.mk <$> decodeU16Bytes

theorem exact : ExactOn (fun _ => True) encode decode := by
  intro b url rest
  simp only [decode, map_eq_ok, exact_decodeU16Bytes, true_and]
  constructor
  · rintro ⟨bytes, h, rfl⟩
    exact h
  · exact fun h => ⟨url.bytes, h, rfl⟩

/-- Every encoding starts with its two-byte length, so the item loop always moves on. -/
def item : ItemDecoder UrlBytes :=
  .ofExactOn exact fun {_ p} encoded => by
    obtain ⟨_, rfl⟩ := encodePrefixedBytes_eq_some.mp encoded
    simp only [List.length_append, encodeBE_length]
    omega

theorem exact_items :
    ExactOn (fun xs => ∀ x ∈ xs, True) (encodeU16Items encode) (decodeU16Items item) :=
  exact_decodePrefixedItems 2 item exact

/-- The URL fits its `u16` length. -/
def Fits (url : UrlBytes) : Prop := url.bytes.length < 256 ^ 2

instance : DecidablePred Fits := fun _ => inferInstanceAs (Decidable (_ < _))

/-- The length of the encoding: the URL after its length. -/
def size (url : UrlBytes) : Nat := 2 + url.bytes.length

theorem sized : SizedOn Fits size encode := fun url => sized_encodePrefixedBytes 2 url.bytes

end UrlBytes

/-- The endpoints as `TaskConfig::encode_with_param` writes them: a u16 list of the two under
Draft02, the two one after the other under Draft07. -/
def encodeUrls (version : DapVersion) (leaderUrl helperUrl : UrlBytes) : Option Bytes :=
  match version with
  | .draft02 => encodeU16Items UrlBytes.encode [leaderUrl, helperUrl]
  | .draft07 => do
    let leader ← leaderUrl.encode
    let helper ← helperUrl.encode
    pure (leader ++ helper)

/-- The endpoints fit their prefixes: each URL takes at most 65535 bytes, and under Draft02 so
does the u16 list of the two, their lengths included. -/
def UrlsFit : DapVersion → UrlBytes → UrlBytes → Prop
  | .draft02, leaderUrl, helperUrl => ItemsFit UrlBytes.Fits UrlBytes.size 2 [leaderUrl, helperUrl]
  | .draft07, leaderUrl, helperUrl => leaderUrl.Fits ∧ helperUrl.Fits

instance : (version : DapVersion) → (leaderUrl helperUrl : UrlBytes) →
    Decidable (UrlsFit version leaderUrl helperUrl)
  | .draft02, _, _ => inferInstanceAs (Decidable (ItemsFit _ _ _ _))
  | .draft07, _, _ => inferInstanceAs (Decidable (_ ∧ _))

theorem encodeUrls_isSome {version : DapVersion} {leaderUrl helperUrl : UrlBytes}
    (fits : UrlsFit version leaderUrl helperUrl) :
    (encodeUrls version leaderUrl helperUrl).isSome := by
  cases version with
  | draft02 =>
    obtain ⟨p, encoded, -⟩ := sized_encodePrefixedItems 2 UrlBytes.sized _ fits
    simp [encodeUrls, encodeU16Items, encoded]
  | draft07 =>
    obtain ⟨leader, encodedLeader, -⟩ := UrlBytes.sized _ fits.1
    obtain ⟨helper, encodedHelper, -⟩ := UrlBytes.sized _ fits.2
    simp [encodeUrls, encodedLeader, encodedHelper]

/-- `try_into` a `[UrlBytes; 2]`, its error mapped to `UnexpectedValue`: exactly two aggregator
endpoints. -/
def tryIntoPair : List UrlBytes → Except CodecError (UrlBytes × UrlBytes)
  | [leaderUrl, helperUrl] => .ok (leaderUrl, helperUrl)
  | _ => .error .unexpectedValue

/-- The endpoints as `TaskConfig::decode_with_param` reads them. -/
def decodeUrls (version : DapVersion) : Decoder (UrlBytes × UrlBytes) :=
  match version with
  | .draft02 => do
    let urls ← decodeU16Items UrlBytes.item
    StateT.lift (tryIntoPair urls)
  | .draft07 => do
    let leaderUrl ← UrlBytes.decode
    let helperUrl ← UrlBytes.decode
    pure (leaderUrl, helperUrl)

theorem parses_decodeUrls {version : DapVersion} {leaderUrl helperUrl : UrlBytes} {p : Bytes}
    (encoded : encodeUrls version leaderUrl helperUrl = some p) :
    Parses (decodeUrls version) p (leaderUrl, helperUrl) := by
  cases version with
  | draft02 =>
    rw [← List.append_nil p]
    exact (ExactOn.parses UrlBytes.exact_items (by simp) encoded).bind (Parses.lift _)
  | draft07 =>
    simp only [encodeUrls, bind, Option.bind_eq_some, pure, Option.some.injEq] at encoded
    obtain ⟨leader, hleader, helper, hhelper, rfl⟩ := encoded
    rw [← List.append_nil helper]
    exact (ExactOn.parses UrlBytes.exact trivial hleader).bind
      ((ExactOn.parses UrlBytes.exact trivial hhelper).bind (Parses.pure _))

theorem sound_decodeUrls_draft07 {b rest : Bytes} {urls : UrlBytes × UrlBytes}
    (h : decodeUrls .draft07 b = .ok (urls, rest)) :
    ∃ p, encodeUrls .draft07 urls.1 urls.2 = some p ∧ b = p ++ rest := by
  simp only [decodeUrls, bind_eq_ok, pure_eq_ok] at h
  obtain ⟨leaderUrl, _, hleader, helperUrl, _, hhelper, rfl, rfl⟩ := h
  obtain ⟨-, p, encodedLeader, rfl⟩ := UrlBytes.exact.mp hleader
  obtain ⟨-, q, encodedHelper, rfl⟩ := UrlBytes.exact.mp hhelper
  exact ⟨p ++ q, by simp [encodeUrls, encodedLeader, encodedHelper], by simp⟩

theorem local_decodeUrls (version : DapVersion) : Local (decodeUrls version) := by
  cases version with
  | draft02 =>
    apply Local.bind (ExactOn.isLocal UrlBytes.exact_items)
    exact fun urls => Local.lift (tryIntoPair urls)
  | draft07 =>
    apply Local.bind (ExactOn.isLocal UrlBytes.exact)
    intro leaderUrl
    apply Local.bind (ExactOn.isLocal UrlBytes.exact)
    exact fun helperUrl => Local.pure _

/-! ## The task configuration -/

/-- The item decoder of `task_info`'s bytes. -/
def u8Item : ItemDecoder UInt8 :=
  .ofExactOn exact_decodeU8.exactOn fun encoded => by
    cases encoded
    simp [encodeU8]

/-- Each byte of `task_info` is one byte of its encoding. -/
theorem sum_map_encodeU8_length (bytes : Bytes) :
    itemsLength (fun byte => (encodeU8 byte).length) bytes = bytes.length := by
  induction bytes with
  | nil => rfl
  | cons byte bytes ih =>
    rw [itemsLength, ih, List.length_cons, encodeU8, encodeBE_length, Nat.add_comm]

/-- A DAP task configuration. -/
structure TaskConfig where
  taskInfo : Bytes
  leaderUrl : UrlBytes
  helperUrl : UrlBytes
  queryConfig : QueryConfig
  taskExpiration : UInt64
  vdafConfig : VdafConfig
  deriving DecidableEq, Repr

namespace TaskConfig

/-- `TaskConfig::encode_with_param`. -/
def encodeWithParam (version : DapVersion) (config : TaskConfig) : Option Bytes := do
  let taskInfo ← encodeU8Items (fun byte => some (encodeU8 byte)) config.taskInfo
  let urls ← encodeUrls version config.leaderUrl config.helperUrl
  let queryConfig ← config.queryConfig.encodeWithParam version
  let vdafConfig ← config.vdafConfig.encodeWithParam version
  pure (taskInfo ++ urls ++ queryConfig ++ encodeU64 config.taskExpiration ++ vdafConfig)

/-- `TaskConfig::decode_with_param`. -/
def decodeWithParam (version : DapVersion) : Decoder TaskConfig := do
  let taskInfo ← decodeU8Items u8Item
  let urls ← decodeUrls version
  let queryConfig ← QueryConfig.decodeWithParam version
  let taskExpiration ← decodeU64
  let vdafConfig ← VdafConfig.decodeWithParam version
  pure ⟨taskInfo, urls.1, urls.2, queryConfig, taskExpiration, vdafConfig⟩

/-- Every `NotImplemented` variant carries an unknown code. -/
def Valid (config : TaskConfig) : Prop := config.queryConfig.var.Valid ∧ config.vdafConfig.Valid

instance (config : TaskConfig) : Decidable config.Valid := inferInstanceAs (Decidable (_ ∧ _))

/-- No part is `NotImplemented`. -/
def implemented (config : TaskConfig) : Bool :=
  config.queryConfig.var.implemented && config.vdafConfig.implemented

/-- The fields fit their prefixes: `task_info` takes at most 255 bytes, the endpoints fit
(`UrlsFit`), and so do the `NotImplemented` parameters of the query and VDAF configurations. -/
def Fits (version : DapVersion) (config : TaskConfig) : Prop :=
  config.taskInfo.length < 256 ∧ UrlsFit version config.leaderUrl config.helperUrl ∧
    config.queryConfig.var.Fits version ∧ config.vdafConfig.Fits version

instance (version : DapVersion) : DecidablePred (Fits version) :=
  fun _ => inferInstanceAs (Decidable (_ ∧ _ ∧ _ ∧ _))

theorem encodeWithParam_isSome {version : DapVersion} {config : TaskConfig}
    (fits : config.Fits version) : (config.encodeWithParam version).isSome := by
  obtain ⟨fitsInfo, fitsUrls, fitsQuery, fitsVdaf⟩ := fits
  have infoFits : ItemsFit (fun _ => True) (fun byte => (encodeU8 byte).length) 1 config.taskInfo :=
    ⟨fun _ _ => trivial, (sum_map_encodeU8_length _).symm ▸ fitsInfo⟩
  obtain ⟨info, encodedInfo, -⟩ :=
    sized_encodePrefixedItems 1 (SizedOn.of_total encodeU8) _ infoFits
  obtain ⟨urls, encodedUrls⟩ := Option.isSome_iff_exists.mp (encodeUrls_isSome fitsUrls)
  obtain ⟨query, encodedQuery⟩ :=
    Option.isSome_iff_exists.mp (QueryConfig.encodeWithParam_isSome fitsQuery)
  obtain ⟨vdaf, encodedVdaf⟩ :=
    Option.isSome_iff_exists.mp (VdafConfig.encodeWithParam_isSome fitsVdaf)
  simp [encodeWithParam, encodeU8Items, encodedInfo, encodedUrls, encodedQuery, encodedVdaf]

theorem roundTrips {version : DapVersion} {config : TaskConfig} {p : Bytes} (known : config.Valid)
    (encoded : config.encodeWithParam version = some p) :
    RoundTrips version config.implemented (decodeWithParam version) p config := by
  cases config
  simp only [encodeWithParam, bind, Option.bind_eq_some, pure, Option.some.injEq] at encoded
  obtain ⟨taskInfo, htaskInfo, urls, hurls, query, hquery, vdaf, hvdaf, rfl⟩ := encoded
  have info := ExactOn.parses (exact_decodePrefixedItems 1 u8Item exact_decodeU8.exactOn)
    (fun _ _ => trivial) htaskInfo
  simp only [List.append_assoc]
  exact RoundTrips.bind_parses info (RoundTrips.bind_parses (parses_decodeUrls hurls)
    ((QueryConfig.roundTrips known.1 hquery).bind (RoundTrips.bind_parses
      (exact_decodeU64.parses _) (.bind_pure _ (VdafConfig.roundTrips known.2 hvdaf)))))

/-- Under Draft07 what the decoder accepts is an encoding of a configuration whose
`NotImplemented` codes are unknown. -/
theorem sound_draft07 : Sound Valid (encodeWithParam .draft07) (decodeWithParam .draft07) := by
  intro b config rest h
  simp only [decodeWithParam, bind_eq_ok, pure_eq_ok, exact_decodeU64] at h
  obtain ⟨taskInfo, _, hinfo, urls, _, hurls, queryConfig, _, hquery, taskExpiration, _, rfl,
    vdafConfig, _, hvdaf, rfl, rfl⟩ := h
  obtain ⟨-, info, encodedInfo, rfl⟩ :=
    (exact_decodePrefixedItems 1 u8Item exact_decodeU8.exactOn).mp hinfo
  obtain ⟨endpoints, encodedUrls, rfl⟩ := sound_decodeUrls_draft07 hurls
  obtain ⟨validQuery, query, encodedQuery, rfl⟩ := QueryConfig.sound_draft07 hquery
  obtain ⟨validVdaf, vdaf, encodedVdaf, rfl⟩ := VdafConfig.sound .draft07 hvdaf
  exact ⟨⟨validQuery, validVdaf⟩,
    info ++ endpoints ++ query ++ encodeU64 taskExpiration ++ vdaf,
    by simp [encodeWithParam, encodeU8Items, encodedInfo, encodedUrls, encodedQuery, encodedVdaf],
    by simp⟩

theorem isLocal (version : DapVersion) : Local (decodeWithParam version) := by
  apply Local.bind (ExactOn.isLocal (exact_decodePrefixedItems 1 u8Item exact_decodeU8.exactOn))
  intro taskInfo
  apply Local.bind (local_decodeUrls version)
  intro urls
  apply Local.bind (QueryConfig.isLocal version)
  intro queryConfig
  apply Local.bind exact_decodeU64.isLocal
  intro taskExpiration
  apply Local.bind (VdafConfig.isLocal version)
  exact fun vdafConfig => Local.pure _

end TaskConfig

end Daphne.Taskprov
