/-
# Daphne.Taskprov.Query — the query configuration and its Draft02 layout

`QueryConfig::encode_with_param` writes the query-type code after `min_batch_size` under both
drafts, from the arms of its final match, and under Draft02 also first, from
`encode_query_type`. The decoder mirrors this: under Draft02 it reads the leading code, and
`query_type.unwrap_or(u8::decode(bytes)?)`, whose argument Rust evaluates first, reads one more
byte after `min_batch_size` under both drafts and under Draft02 throws it away.

Encoder and decoder therefore agree with each other (`QueryConfig.roundTrips`,
`QueryConfig.isLocal`), but not with the draft layout, which carries the code once:

* `encodeWithParam_draft02_queryType_twice`: a Draft02 encoding is one byte longer than the
  layout, and the decoder refuses the layout itself;
* `decodeWithParam_draft02_discards`: the Draft02 decoder accepts any byte in the second code's
  place, so it is not canonical.
-/
import Daphne.Taskprov.Version

namespace Daphne.Taskprov

open Decoder

set_option autoImplicit false

/-- `QUERY_TYPE_TIME_INTERVAL` as `taskprov.rs` uses it. `messages.rs` declares the constant as a
`u16`, but `QueryConfig::decode_with_param` reads the query type with `u8::decode` and matches it
against the constant, which type-checks only at `u8`: the taskprov codec is modelled with the
one-byte code. -/
def queryTypeTimeInterval : UInt8 := 0x01

/-- `QUERY_TYPE_FIXED_SIZE`, one byte as for `queryTypeTimeInterval`. -/
def queryTypeFixedSize : UInt8 := 0x02

/-! ## The variant -/

/-- A `QueryConfig` type and its associated task configuration data. -/
inductive QueryConfigVar where
  | timeInterval
  | fixedSize (maxBatchSize : UInt32)
  | notImplemented (typ : UInt8) (param : Bytes)
  deriving DecidableEq, Repr

namespace QueryConfigVar

/-- The query-type code a variant is written with. -/
def queryType : QueryConfigVar → UInt8
  | timeInterval => queryTypeTimeInterval
  | fixedSize _ => queryTypeFixedSize
  | notImplemented typ _ => typ

/-- The arms of the final match of `QueryConfig::encode_with_param`: the query-type code, then
the variant's body. -/
def encodeWithParam (version : DapVersion) : QueryConfigVar → Option Bytes
  | timeInterval => (encodeU8 queryTypeTimeInterval ++ ·) <$> encodeU16ItemForVersion version encodeUnit ()
  | fixedSize maxBatchSize =>
    (encodeU8 queryTypeFixedSize ++ ·) <$> encodeU16ItemForVersion version encodeU32 maxBatchSize
  | notImplemented typ param => (encodeU8 typ ++ ·) <$> encodeNotImplementedParam version param

/-- The arms of the match of `QueryConfig::decode_with_param` on the query type. -/
def decodeWithParam (version : DapVersion) (queryType : UInt8) : Decoder QueryConfigVar :=
  if queryType = queryTypeTimeInterval then
    (fun () => timeInterval) <$> decodeU16ItemForVersion version decodeUnit
  else if queryType = queryTypeFixedSize then
    fixedSize <$> decodeU16ItemForVersion version decodeU32
  else notImplemented queryType <$> decodeNotImplementedParam version

/-- A `NotImplemented` type carries neither known code, which the decoder would read as that
variant. -/
def Valid : QueryConfigVar → Prop
  | notImplemented typ _ => typ ≠ queryTypeTimeInterval ∧ typ ≠ queryTypeFixedSize
  | _ => True

instance : DecidablePred Valid := fun var =>
  match var with
  | timeInterval => inferInstanceAs (Decidable True)
  | fixedSize _ => inferInstanceAs (Decidable True)
  | notImplemented _ _ => inferInstanceAs (Decidable (_ ∧ _))

/-- The variant is not `NotImplemented`. -/
def implemented : QueryConfigVar → Bool
  | notImplemented _ _ => false
  | _ => true

/-- A `NotImplemented` parameter fits its prefix. -/
def Fits (version : DapVersion) : QueryConfigVar → Prop
  | notImplemented _ param => ParamFits version param
  | _ => True

instance (version : DapVersion) : DecidablePred (Fits version)
  | timeInterval => inferInstanceAs (Decidable True)
  | fixedSize _ => inferInstanceAs (Decidable True)
  | notImplemented _ param => inferInstanceAs (Decidable (ParamFits version param))

theorem encodeWithParam_isSome {version : DapVersion} {var : QueryConfigVar}
    (fits : var.Fits version) : (var.encodeWithParam version).isSome := by
  cases var with
  | timeInterval => simp [encodeWithParam]
  | fixedSize maxBatchSize => simp [encodeWithParam]
  | notImplemented typ param => simp [encodeWithParam, encodeNotImplementedParam_isSome fits]

/-- An encoded variant is its code followed by a body, on which the arm the code selects round
trips. -/
theorem roundTrips {version : DapVersion} {var : QueryConfigVar} {p : Bytes} (known : var.Valid)
    (encoded : var.encodeWithParam version = some p) :
    ∃ body, p = encodeU8 var.queryType ++ body ∧
      RoundTrips version var.implemented (decodeWithParam version var.queryType) body var := by
  cases var with
  | timeInterval =>
    obtain ⟨body, hbody, rfl⟩ := Option.map_eq_some'.mp encoded
    refine ⟨body, rfl, ?_⟩
    rw [queryType, decodeWithParam, if_pos rfl]
    exact .of_parses (.map _ (parses_decodeU16ItemForVersion exact_decodeUnit hbody)) version
  | fixedSize maxBatchSize =>
    obtain ⟨body, hbody, rfl⟩ := Option.map_eq_some'.mp encoded
    refine ⟨body, rfl, ?_⟩
    rw [queryType, decodeWithParam, if_neg (by decide), if_pos rfl]
    exact .of_parses (.map _ (parses_decodeU16ItemForVersion exact_decodeU32 hbody)) version
  | notImplemented typ param =>
    obtain ⟨body, hbody, rfl⟩ := Option.map_eq_some'.mp encoded
    refine ⟨body, rfl, ?_⟩
    rw [queryType, decodeWithParam, if_neg known.1, if_neg known.2]
    exact .map _ (roundTrips_decodeNotImplementedParam hbody)

/-- What the arm of `queryType` accepts is the body of an encoding of a valid variant carrying
that code. -/
theorem sound {version : DapVersion} {queryType : UInt8} {b rest : Bytes} {var : QueryConfigVar}
    (h : decodeWithParam version queryType b = .ok (var, rest)) :
    var.Valid ∧ var.queryType = queryType ∧
      ∃ body, var.encodeWithParam version = some (encodeU8 queryType ++ body) ∧
        b = body ++ rest := by
  unfold decodeWithParam at h
  split at h
  · rename_i timeIntervalCode
    obtain ⟨⟨⟩, hunit, rfl⟩ := map_eq_ok.mp h
    obtain ⟨-, p, encoded, rfl⟩ := sound_decodeU16ItemForVersion version exact_decodeUnit hunit
    subst timeIntervalCode
    exact ⟨trivial, rfl, p, by simp [encodeWithParam, encoded], rfl⟩
  · split at h
    · rename_i fixedSizeCode
      obtain ⟨maxBatchSize, hmax, rfl⟩ := map_eq_ok.mp h
      obtain ⟨-, p, encoded, rfl⟩ := sound_decodeU16ItemForVersion version exact_decodeU32 hmax
      subst fixedSizeCode
      exact ⟨trivial, rfl, p, by simp [encodeWithParam, encoded], rfl⟩
    · rename_i notTimeInterval notFixedSize
      obtain ⟨param, hparam, rfl⟩ := map_eq_ok.mp h
      obtain ⟨-, p, encoded, rfl⟩ := sound_decodeNotImplementedParam version hparam
      exact ⟨⟨notTimeInterval, notFixedSize⟩, rfl, p, by simp [encodeWithParam, encoded], rfl⟩

theorem isLocal (version : DapVersion) (queryType : UInt8) :
    Local (decodeWithParam version queryType) := by
  unfold decodeWithParam
  split
  · apply Local.map
    exact local_decodeU16ItemForVersion version exact_decodeUnit.isLocal
  · split
    · apply Local.map
      exact local_decodeU16ItemForVersion version exact_decodeU32.isLocal
    · apply Local.map
      exact local_decodeNotImplementedParam version

end QueryConfigVar

/-! ## The configuration -/

/-- A query configuration. -/
structure QueryConfig where
  timePrecision : UInt64
  maxBatchQueryCount : UInt16
  minBatchSize : UInt32
  var : QueryConfigVar
  deriving DecidableEq, Repr

namespace QueryConfig

/-- `QueryConfig::encode_query_type`. -/
def encodeQueryType (config : QueryConfig) : Bytes := encodeU8 config.var.queryType

/-- `QueryConfig::encode_with_param`. -/
def encodeWithParam (version : DapVersion) (config : QueryConfig) : Option Bytes := do
  let var ← config.var.encodeWithParam version
  pure ((if version = .draft02 then config.encodeQueryType else []) ++
    encodeU64 config.timePrecision ++ encodeU16 config.maxBatchQueryCount ++
    encodeU32 config.minBatchSize ++ var)

/-- The configuration is written whenever its variant's parameter fits its prefix. -/
theorem encodeWithParam_isSome {version : DapVersion} {config : QueryConfig}
    (fits : config.var.Fits version) : (config.encodeWithParam version).isSome := by
  obtain ⟨var, encoded⟩ :=
    Option.isSome_iff_exists.mp (QueryConfigVar.encodeWithParam_isSome fits)
  simp [encodeWithParam, encoded]

/-- The first `query_type` of `QueryConfig::decode_with_param`: none under Draft07, a byte under
Draft02. -/
def decodeLeadingQueryType (version : DapVersion) : Decoder (Option UInt8) :=
  match version with
  | .draft07 => pure none
  | .draft02 => some <$> decodeU8

/-- `QueryConfig::decode_with_param`. The argument of `unwrap_or` is read first, under both
drafts, and only used under Draft07. -/
def decodeWithParam (version : DapVersion) : Decoder QueryConfig := do
  let queryType ← decodeLeadingQueryType version
  let timePrecision ← decodeU64
  let maxBatchQueryCount ← decodeU16
  let minBatchSize ← decodeU32
  let unwrapOrArg ← decodeU8
  let var ← QueryConfigVar.decodeWithParam version (queryType.getD unwrapOrArg)
  pure { timePrecision, maxBatchQueryCount, minBatchSize, var }

theorem parses_decodeLeadingQueryType (version : DapVersion) (code : UInt8) :
    ∃ queryType, Parses (decodeLeadingQueryType version)
      (if version = .draft02 then encodeU8 code else []) queryType ∧ queryType.getD code = code := by
  cases version with
  | draft02 => exact ⟨some code, Parses.map some (exact_decodeU8.parses code), rfl⟩
  | draft07 => exact ⟨none, Parses.pure none, rfl⟩

theorem local_decodeLeadingQueryType (version : DapVersion) :
    Local (decodeLeadingQueryType version) := by
  cases version with
  | draft02 =>
    apply Local.map
    exact exact_decodeU8.isLocal
  | draft07 => exact Local.pure _

/-- The decoder on a leading code, the three fields, the byte `unwrap_or`'s argument reads, and a
variant's body selected by the code that `unwrap_or` returns. -/
theorem roundTrips_layout {version : DapVersion} {leading : Bytes} {queryType : Option UInt8}
    (first : Parses (decodeLeadingQueryType version) leading queryType) (timePrecision : UInt64)
    (maxBatchQueryCount : UInt16) (minBatchSize : UInt32) (byte : UInt8) {body : Bytes}
    {implemented : Bool} {var : QueryConfigVar}
    (hvar : RoundTrips version implemented
      (QueryConfigVar.decodeWithParam version (queryType.getD byte)) body var) :
    RoundTrips version implemented (decodeWithParam version)
      (leading ++ (encodeU64 timePrecision ++ (encodeU16 maxBatchQueryCount ++
        (encodeU32 minBatchSize ++ (encodeU8 byte ++ body)))))
      ⟨timePrecision, maxBatchQueryCount, minBatchSize, var⟩ :=
  RoundTrips.bind_parses first (RoundTrips.bind_parses (exact_decodeU64.parses _)
    (RoundTrips.bind_parses (exact_decodeU16.parses _) (RoundTrips.bind_parses
      (exact_decodeU32.parses _) (RoundTrips.bind_parses (exact_decodeU8.parses _)
        (hvar.bind_pure _)))))

theorem roundTrips {version : DapVersion} {config : QueryConfig} {p : Bytes}
    (known : config.var.Valid) (encoded : config.encodeWithParam version = some p) :
    RoundTrips version config.var.implemented (decodeWithParam version) p config := by
  cases config with
  | mk timePrecision maxBatchQueryCount minBatchSize var =>
  simp only [encodeWithParam, encodeQueryType, bind, Option.bind_eq_some, pure,
    Option.some.injEq] at encoded
  obtain ⟨body, hbody, rfl⟩ := encoded
  obtain ⟨tail, rfl, hvar⟩ := QueryConfigVar.roundTrips known hbody
  obtain ⟨queryType, leading, unwrapped⟩ := parses_decodeLeadingQueryType version var.queryType
  simp only [List.append_assoc]
  exact roundTrips_layout leading _ _ _ _ (by rwa [unwrapped])

theorem isLocal (version : DapVersion) : Local (decodeWithParam version) := by
  apply Local.bind (local_decodeLeadingQueryType version)
  intro queryType
  apply Local.bind exact_decodeU64.isLocal
  intro _
  apply Local.bind exact_decodeU16.isLocal
  intro _
  apply Local.bind exact_decodeU32.isLocal
  intro _
  apply Local.bind exact_decodeU8.isLocal
  intro unwrapOrArg
  apply Local.bind (QueryConfigVar.isLocal version _)
  exact fun _ => Local.pure _

/-- Under Draft07 what the decoder accepts is an encoding: the code is read once, after the three
fields, and selects the variant's arm. -/
theorem sound_draft07 :
    Sound (fun config => config.var.Valid) (encodeWithParam .draft07)
      (decodeWithParam .draft07) := by
  intro b config rest h
  simp only [decodeWithParam, decodeLeadingQueryType, bind_eq_ok, pure_eq_ok, exact_decodeU64,
    exact_decodeU16, exact_decodeU32, exact_decodeU8, Option.getD_none] at h
  obtain ⟨_, _, ⟨rfl, rfl⟩, timePrecision, _, rfl, maxBatchQueryCount, _, rfl, minBatchSize, _,
    rfl, queryType, _, rfl, var, _, hvar, rfl, rfl⟩ := h
  obtain ⟨valid, rfl, body, encoded, rfl⟩ := QueryConfigVar.sound hvar
  exact ⟨valid, encodeU64 timePrecision ++ encodeU16 maxBatchQueryCount ++
    encodeU32 minBatchSize ++ (encodeU8 var.queryType ++ body),
    by simp [encodeWithParam, encoded], by simp⟩

/-! ## The Draft02 layout -/

/-- The Draft02 decoder reads the byte after `min_batch_size` and ignores it: an implemented
configuration decodes back from its encoding whatever byte stands in its second query-type code's
place. -/
theorem decodeWithParam_draft02_discards (config : QueryConfig)
    (implemented : config.var.implemented = true) (body : Bytes)
    (encoded : config.var.encodeWithParam .draft02 = some (encodeU8 config.var.queryType ++ body))
    (byte : UInt8) (rest : Bytes) :
    decodeWithParam .draft02 (config.encodeQueryType ++ encodeU64 config.timePrecision ++
      encodeU16 config.maxBatchQueryCount ++ encodeU32 config.minBatchSize ++ encodeU8 byte ++
      body ++ rest) = .ok (config, rest) := by
  cases config with
  | mk timePrecision maxBatchQueryCount minBatchSize var =>
  have known : var.Valid := by
    cases var <;> simp_all [QueryConfigVar.implemented, QueryConfigVar.Valid]
  obtain ⟨tail, same, hvar⟩ := QueryConfigVar.roundTrips known encoded
  obtain rfl := List.append_cancel_left same
  rw [implemented] at hvar
  have leading : Parses (decodeLeadingQueryType .draft02) (encodeU8 var.queryType)
      (some var.queryType) := Parses.map some (exact_decodeU8.parses _)
  simpa [encodeQueryType] using
    roundTrips_layout leading timePrecision maxBatchQueryCount minBatchSize byte hvar rest

/-- The draft layout of a time-interval configuration under Draft02 is its code and then its
three fields: 15 bytes. The encoder writes 16, the code again at the end, and the decoder refuses
the 15-byte layout, reading past its end for the second code. -/
theorem encodeWithParam_draft02_queryType_twice :
    encodeWithParam .draft02 ⟨0, 0, 0, .timeInterval⟩ = some ([1] ++ List.replicate 14 0 ++ [1]) ∧
    getDecoded (decodeWithParam .draft02) ([1] ++ List.replicate 14 0) = .error .io :=
  ⟨rfl, rfl⟩

/-- Under Draft02 the decoder returns the time-interval configuration from 16 bytes ending in
`0xFF`, while that configuration's encoding ends in its code `1`: what the decoder consumed is not
the encoding of what it returned. -/
theorem decodeWithParam_draft02_not_canonical :
    decodeWithParam .draft02 ([1] ++ List.replicate 14 0 ++ [0xFF]) =
      .ok (⟨0, 0, 0, .timeInterval⟩, []) ∧
    encodeWithParam .draft02 ⟨0, 0, 0, .timeInterval⟩ = some ([1] ++ List.replicate 14 0 ++ [1]) :=
  ⟨rfl, rfl⟩

end QueryConfig

end Daphne.Taskprov
