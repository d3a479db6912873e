/-
# Daphne.Taskprov.Vdaf — the VDAF configuration of a taskprov task

`DpConfig` and `VdafTypeVar` are each a code followed by a body: the one known code's body goes
through `encode_u16_item_for_version`, and any other code is a `NotImplemented { typ, param }`.
`VdafConfig` is the two one after the other. For each, `roundTrips` says what the decoder does
with an encoding under either draft, and `isLocal` that it depends only on the bytes it consumes.
-/
import Daphne.Taskprov.Version

namespace Daphne.Taskprov

open Decoder

set_option autoImplicit false

/-- `VDAF_TYPE_PRIO2`. -/
def vdafTypePrio2 : UInt32 := 0xFFFF0000

/-- `DP_MECHANISM_NONE`. -/
def dpMechanismNone : UInt8 := 0x01

/-! ## The VDAF type -/

/-- A VDAF type along with its type-specific data. -/
inductive VdafTypeVar where
  | prio2 (dimension : UInt32)
  | notImplemented (typ : UInt32) (param : Bytes)
  deriving DecidableEq, Repr

namespace VdafTypeVar

/-- `VdafTypeVar::encode_with_param`. -/
def encodeWithParam (version : DapVersion) : VdafTypeVar → Option Bytes
  | prio2 dimension =>
    (encodeU32 vdafTypePrio2 ++ ·) <$> encodeU16ItemForVersion version encodeU32 dimension
  | notImplemented typ param => (encodeU32 typ ++ ·) <$> encodeNotImplementedParam version param

/-- `VdafTypeVar::decode_with_param`. -/
def decodeWithParam (version : DapVersion) : Decoder VdafTypeVar := do
  let vdafType ← decodeU32
  if vdafType = vdafTypePrio2 then prio2 <$> decodeU16ItemForVersion version decodeU32
  else notImplemented vdafType <$> decodeNotImplementedParam version

/-- A `NotImplemented` type does not carry the Prio2 code, which the decoder reads as `Prio2`. -/
def Valid : VdafTypeVar → Prop
  | prio2 _ => True
  | notImplemented typ _ => typ ≠ vdafTypePrio2

instance : DecidablePred Valid := fun var =>
  match var with
  | prio2 _ => inferInstanceAs (Decidable True)
  | notImplemented typ _ => inferInstanceAs (Decidable (typ ≠ vdafTypePrio2))

/-- The type is not `NotImplemented`. -/
def implemented : VdafTypeVar → Bool
  | prio2 _ => true
  | notImplemented _ _ => false

/-- A `NotImplemented` parameter fits its prefix. -/
def Fits (version : DapVersion) : VdafTypeVar → Prop
  | prio2 _ => True
  | notImplemented _ param => ParamFits version param

instance (version : DapVersion) : DecidablePred (Fits version)
  | prio2 _ => inferInstanceAs (Decidable True)
  | notImplemented _ param => inferInstanceAs (Decidable (ParamFits version param))

theorem encodeWithParam_isSome {version : DapVersion} {var : VdafTypeVar}
    (fits : var.Fits version) : (var.encodeWithParam version).isSome := by
  cases var with
  | prio2 dimension => simp [encodeWithParam]
  | notImplemented typ param => simp [encodeWithParam, encodeNotImplementedParam_isSome fits]

theorem roundTrips {version : DapVersion} {var : VdafTypeVar} {p : Bytes} (known : var.Valid)
    (encoded : var.encodeWithParam version = some p) :
    RoundTrips version var.implemented (decodeWithParam version) p var := by
  cases var with
  | prio2 dimension =>
    obtain ⟨body, hbody, rfl⟩ := Option.map_eq_some'.mp encoded
    refine RoundTrips.bind_parses (exact_decodeU32.parses vdafTypePrio2) ?_
    dsimp only
    rw [if_pos rfl]
    exact .of_parses (.map prio2 (parses_decodeU16ItemForVersion exact_decodeU32 hbody)) version
  | notImplemented typ param =>
    obtain ⟨body, hbody, rfl⟩ := Option.map_eq_some'.mp encoded
    refine RoundTrips.bind_parses (exact_decodeU32.parses typ) ?_
    dsimp only
    rw [if_neg known]
    exact .map _ (roundTrips_decodeNotImplementedParam hbody)

theorem sound (version : DapVersion) :
    Sound Valid (encodeWithParam version) (decodeWithParam version) := by
  intro b var rest h
  obtain ⟨vdafType, r, hcode, hbody⟩ := bind_eq_ok.mp h
  obtain rfl := exact_decodeU32.mp hcode
  split at hbody
  · rename_i prio2Code
    obtain ⟨dimension, hdimension, rfl⟩ := map_eq_ok.mp hbody
    obtain ⟨-, p, encoded, rfl⟩ := sound_decodeU16ItemForVersion version exact_decodeU32 hdimension
    subst prio2Code
    exact ⟨trivial, encodeU32 vdafTypePrio2 ++ p, by simp [encodeWithParam, encoded], by simp⟩
  · rename_i unknown
    obtain ⟨param, hparam, rfl⟩ := map_eq_ok.mp hbody
    obtain ⟨-, p, encoded, rfl⟩ := sound_decodeNotImplementedParam version hparam
    exact ⟨unknown, encodeU32 vdafType ++ p, by simp [encodeWithParam, encoded], by simp⟩

theorem isLocal (version : DapVersion) : Local (decodeWithParam version) := by
  apply Local.bind exact_decodeU32.isLocal
  intro vdafType
  split
  · apply Local.map
    exact local_decodeU16ItemForVersion version exact_decodeU32.isLocal
  · apply Local.map
    exact local_decodeNotImplementedParam version

end VdafTypeVar

/-! ## The differential privacy mechanism -/

/-- A differential privacy mechanism. -/
inductive DpConfig where
  | none
  | notImplemented (typ : UInt8) (param : Bytes)
  deriving DecidableEq, Repr

namespace DpConfig

/-- `DpConfig::encode_with_param`. -/
def encodeWithParam (version : DapVersion) : DpConfig → Option Bytes
  | DpConfig.none =>
    (encodeU8 dpMechanismNone ++ ·) <$> encodeU16ItemForVersion version encodeUnit ()
  | notImplemented typ param => (encodeU8 typ ++ ·) <$> encodeNotImplementedParam version param

/-- `DpConfig::decode_with_param`. -/
def decodeWithParam (version : DapVersion) : Decoder DpConfig := do
  let dpMechanism ← decodeU8
  if dpMechanism = dpMechanismNone then
    (fun () => DpConfig.none) <$> decodeU16ItemForVersion version decodeUnit
  else notImplemented dpMechanism <$> decodeNotImplementedParam version

/-- A `NotImplemented` mechanism does not carry the code of `None`. -/
def Valid : DpConfig → Prop
  | DpConfig.none => True
  | notImplemented typ _ => typ ≠ dpMechanismNone

instance : DecidablePred Valid := fun config =>
  match config with
  | DpConfig.none => inferInstanceAs (Decidable True)
  | notImplemented typ _ => inferInstanceAs (Decidable (typ ≠ dpMechanismNone))

/-- The mechanism is not `NotImplemented`. -/
def implemented : DpConfig → Bool
  | DpConfig.none => true
  | notImplemented _ _ => false

/-- A `NotImplemented` parameter fits its prefix. -/
def Fits (version : DapVersion) : DpConfig → Prop
  | DpConfig.none => True
  | notImplemented _ param => ParamFits version param

instance (version : DapVersion) : DecidablePred (Fits version)
  | DpConfig.none => inferInstanceAs (Decidable True)
  | notImplemented _ param => inferInstanceAs (Decidable (ParamFits version param))

theorem encodeWithParam_isSome {version : DapVersion} {config : DpConfig}
    (fits : config.Fits version) : (config.encodeWithParam version).isSome := by
  cases config with
  | none => simp [encodeWithParam]
  | notImplemented typ param => simp [encodeWithParam, encodeNotImplementedParam_isSome fits]

theorem roundTrips {version : DapVersion} {config : DpConfig} {p : Bytes} (known : config.Valid)
    (encoded : config.encodeWithParam version = some p) :
    RoundTrips version config.implemented (decodeWithParam version) p config := by
  cases config with
  | none =>
    obtain ⟨body, hbody, rfl⟩ := Option.map_eq_some'.mp encoded
    refine RoundTrips.bind_parses (exact_decodeU8.parses dpMechanismNone) ?_
    dsimp only
    rw [if_pos rfl]
    exact .of_parses (.map _ (parses_decodeU16ItemForVersion exact_decodeUnit hbody)) version
  | notImplemented typ param =>
    obtain ⟨body, hbody, rfl⟩ := Option.map_eq_some'.mp encoded
    refine RoundTrips.bind_parses (exact_decodeU8.parses typ) ?_
    dsimp only
    rw [if_neg known]
    exact .map _ (roundTrips_decodeNotImplementedParam hbody)

theorem sound (version : DapVersion) :
    Sound Valid (encodeWithParam version) (decodeWithParam version) := by
  intro b config rest h
  obtain ⟨dpMechanism, r, hcode, hbody⟩ := bind_eq_ok.mp h
  obtain rfl := exact_decodeU8.mp hcode
  split at hbody
  · rename_i noneCode
    obtain ⟨⟨⟩, hunit, rfl⟩ := map_eq_ok.mp hbody
    obtain ⟨-, p, encoded, rfl⟩ := sound_decodeU16ItemForVersion version exact_decodeUnit hunit
    subst noneCode
    exact ⟨trivial, encodeU8 dpMechanismNone ++ p, by simp [encodeWithParam, encoded], by simp⟩
  · rename_i unknown
    obtain ⟨param, hparam, rfl⟩ := map_eq_ok.mp hbody
    obtain ⟨-, p, encoded, rfl⟩ := sound_decodeNotImplementedParam version hparam
    exact ⟨unknown, encodeU8 dpMechanism ++ p, by simp [encodeWithParam, encoded], by simp⟩

theorem isLocal (version : DapVersion) : Local (decodeWithParam version) := by
  apply Local.bind exact_decodeU8.isLocal
  intro dpMechanism
  split
  · apply Local.map
    exact local_decodeU16ItemForVersion version exact_decodeUnit.isLocal
  · apply Local.map
    exact local_decodeNotImplementedParam version

end DpConfig

/-! ## The VDAF configuration -/

/-- A VDAF configuration, made up from a differential privacy configuration, a VDAF type, and
type-specific configuration. -/
structure VdafConfig where
  dpConfig : DpConfig
  var : VdafTypeVar
  deriving DecidableEq, Repr

namespace VdafConfig

/-- `VdafConfig::encode_with_param`. -/
def encodeWithParam (version : DapVersion) (config : VdafConfig) : Option Bytes := do
  let dpConfig ← config.dpConfig.encodeWithParam version
  let var ← config.var.encodeWithParam version
  pure (dpConfig ++ var)

/-- `VdafConfig::decode_with_param`. -/
def decodeWithParam (version : DapVersion) : Decoder VdafConfig := do
  let dpConfig ← DpConfig.decodeWithParam version
  let var ← VdafTypeVar.decodeWithParam version
  pure { dpConfig, var }

/-- Both parts carry valid codes. -/
def Valid (config : VdafConfig) : Prop := config.dpConfig.Valid ∧ config.var.Valid

instance (config : VdafConfig) : Decidable config.Valid := inferInstanceAs (Decidable (_ ∧ _))

/-- Neither part is `NotImplemented`. -/
def implemented (config : VdafConfig) : Bool := config.dpConfig.implemented && config.var.implemented

/-- Both parts fit their prefixes. -/
def Fits (version : DapVersion) (config : VdafConfig) : Prop :=
  config.dpConfig.Fits version ∧ config.var.Fits version

instance (version : DapVersion) : DecidablePred (Fits version) :=
  fun _ => inferInstanceAs (Decidable (_ ∧ _))

theorem encodeWithParam_isSome {version : DapVersion} {config : VdafConfig}
    (fits : config.Fits version) : (config.encodeWithParam version).isSome := by
  obtain ⟨dpConfig, encodedDp⟩ :=
    Option.isSome_iff_exists.mp (DpConfig.encodeWithParam_isSome fits.1)
  obtain ⟨var, encodedVar⟩ :=
    Option.isSome_iff_exists.mp (VdafTypeVar.encodeWithParam_isSome fits.2)
  simp [encodeWithParam, encodedDp, encodedVar]

theorem roundTrips {version : DapVersion} {config : VdafConfig} {p : Bytes} (known : config.Valid)
    (encoded : config.encodeWithParam version = some p) :
    RoundTrips version config.implemented (decodeWithParam version) p config := by
  cases config
  simp only [encodeWithParam, bind, Option.bind_eq_some, pure, Option.some.injEq] at encoded
  obtain ⟨dpConfig, hdp, var, hvar, rfl⟩ := encoded
  exact (DpConfig.roundTrips known.1 hdp).bind (.bind_pure _ (VdafTypeVar.roundTrips known.2 hvar))

theorem sound (version : DapVersion) :
    Sound Valid (encodeWithParam version) (decodeWithParam version) := by
  intro b config rest h
  obtain ⟨dpConfig, r, hdp, hvar⟩ := bind_eq_ok.mp h
  obtain ⟨var, r', hv, hpure⟩ := bind_eq_ok.mp hvar
  obtain ⟨rfl, rfl⟩ := pure_eq_ok.mp hpure
  obtain ⟨validDp, p, encodedDp, rfl⟩ := DpConfig.sound version hdp
  obtain ⟨validVar, q, encodedVar, rfl⟩ := VdafTypeVar.sound version hv
  exact ⟨⟨validDp, validVar⟩, p ++ q, by simp [encodeWithParam, encodedDp, encodedVar],
    by simp⟩

theorem isLocal (version : DapVersion) : Local (decodeWithParam version) := by
  apply Local.bind (DpConfig.isLocal version)
  intro dpConfig
  apply Local.bind (VdafTypeVar.isLocal version)
  exact fun var => Local.pure _

end VdafConfig

end Daphne.Taskprov
