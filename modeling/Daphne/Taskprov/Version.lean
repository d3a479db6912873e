/-
# Daphne.Taskprov.Version — what the taskprov codecs share across drafts

`taskprov.rs` encodes and decodes every configuration under a `DapVersion`, and three pieces recur
in its codecs:

* an implemented variant's body goes through `encode_u16_item_for_version` and
  `decode_u16_item_for_version`: u16-prefixed under Draft07, bare under Draft02;
* a `NotImplemented { typ, param }` variant's `param` is u16-prefixed under Draft07 and bare under
  Draft02, where the decoder cannot find its end and fails;
* the empty body `()` of `TimeInterval` and `DpConfig::None`.

`RoundTrips version implemented dec p x` is what a versioned decoder does with an encoding `p` of
`x`: it parses `x` back, unless the version is Draft02 and `x` has a `NotImplemented` variant, and
then it fails. `RoundTrips.bind` carries it through a decoder's fields; every configuration's round
trip is assembled from it.
-/
import Daphne.Codec.Items

namespace Daphne

/-- `DapVersion`, with the two drafts the codecs and the server branch on. -/
inductive DapVersion where
  | draft02
  | draft07
  deriving DecidableEq, Repr

namespace Taskprov

open Decoder

set_option autoImplicit false

variable {α β : Type}

/-! ## Round trips under a version -/

/-- On an encoding `p` of `x` (followed by anything) a versioned decoder parses `x` back under
Draft07, and under Draft02 when `x` is `implemented` (has no `NotImplemented` variant); under
Draft02 it fails on a `NotImplemented` one. -/
def RoundTrips : DapVersion → Bool → Decoder α → Bytes → α → Prop
  | .draft02, false, dec, p, _ => Refuses dec p
  | _, _, dec, p, x => Parses dec p x

namespace RoundTrips

variable {version : DapVersion} {implemented : Bool} {d : Decoder α} {p : Bytes} {x : α}

theorem of_parses (parses : Parses d p x) (version : DapVersion) : RoundTrips version true d p x := by
  cases version <;> exact parses

theorem parses (h : RoundTrips version implemented d p x)
    (accepted : version = .draft07 ∨ implemented = true) : Parses d p x := by
  rcases accepted with rfl | rfl
  · exact h
  · cases version <;> exact h

theorem refuses (h : RoundTrips .draft02 false d p x) : Refuses d p := h

theorem bind {f : α → Decoder β} {q : Bytes} {y : β} {next : Bool}
    (first : RoundTrips version implemented d p x) (second : RoundTrips version next (f x) q y) :
    RoundTrips version (implemented && next) (d >>= f) (p ++ q) y := by
  cases version with
  | draft02 =>
    cases implemented with
    | false => exact Refuses.bind_left first f q
    | true =>
      cases next with
      | false => exact Refuses.bind_right first second
      | true => exact Parses.bind first second
  | draft07 => exact Parses.bind first second

/-- A field that always parses back, followed by the rest of the decoder. -/
theorem bind_parses {f : α → Decoder β} {q : Bytes} {y : β} (first : Parses d p x)
    (second : RoundTrips version implemented (f x) q y) :
    RoundTrips version implemented (d >>= f) (p ++ q) y :=
  (of_parses first version).bind second

theorem map (f : α → β) (h : RoundTrips version implemented d p x) :
    RoundTrips version implemented (f <$> d) p (f x) := by
  cases version with
  | draft02 =>
    cases implemented with
    | false => exact Refuses.map f h
    | true => exact Parses.map f h
  | draft07 => exact Parses.map f h

/-- The last field, followed by the `pure` that builds the value. -/
theorem bind_pure (g : α → β) (h : RoundTrips version implemented d p x) :
    RoundTrips version implemented (d >>= fun a => pure (g a)) p (g x) := by
  rw [bind_pure_comp]
  exact h.map g

end RoundTrips

/-! ## The empty body -/

/-- prio's encoding of `()`: no bytes. -/
def encodeUnit (_ : Unit) : Bytes := []

/-- prio's decoding of `()`: reads nothing. -/
def decodeUnit : Decoder Unit := pure ()

theorem exact_decodeUnit : Exact encodeUnit decodeUnit := by
  intro b x rest
  simp [decodeUnit, encodeUnit, eq_comm]

/-! ## Versioned item bodies -/

/-- Modelled from the spec: `encode_u16_item_for_version` is not among the repository's files.
Under Draft07 the item's encoding is written as u16-prefixed bytes, under Draft02 bare. -/
def encodeU16ItemForVersion (version : DapVersion) (encode : α → Bytes) (item : α) :
    Option Bytes :=
  match version with
  | .draft07 => encodeU16Bytes (encode item)
  | .draft02 => some (encode item)

/-- Modelled from the spec: `decode_u16_item_for_version` is not among the repository's files.
Under Draft07 it reads u16-prefixed bytes and decodes the item from exactly those bytes
(`get_decoded`, so none may be left over); under Draft02 it decodes the item in place. -/
def decodeU16ItemForVersion (version : DapVersion) (decode : Decoder α) : Decoder α :=
  match version with
  | .draft07 => do
    let bytes ← decodeU16Bytes
    StateT.lift (getDecoded decode bytes)
  | .draft02 => decode

/-- An item whose encoding fits a `u16` length is written under both drafts. -/
theorem encodeU16ItemForVersion_isSome (version : DapVersion) {encode : α → Bytes} {item : α}
    (short : (encode item).length < 256 ^ 2) :
    (encodeU16ItemForVersion version encode item).isSome := by
  cases version with
  | draft07 =>
    obtain ⟨p, encoded, -⟩ := sized_encodePrefixedBytes 2 _ short
    simp [encodeU16ItemForVersion, encodeU16Bytes, encoded]
  | draft02 => rfl

@[simp] theorem encodeU16ItemForVersion_encodeUnit_isSome (version : DapVersion) :
    (encodeU16ItemForVersion version encodeUnit ()).isSome :=
  encodeU16ItemForVersion_isSome version (by decide)

@[simp] theorem encodeU16ItemForVersion_encodeU32_isSome (version : DapVersion) (x : UInt32) :
    (encodeU16ItemForVersion version encodeU32 x).isSome :=
  encodeU16ItemForVersion_isSome version (by simp [encodeU32])

theorem parses_decodeU16ItemForVersion {version : DapVersion} {encode : α → Bytes}
    {decode : Decoder α} (exact : Exact encode decode) {x : α} {p : Bytes}
    (encoded : encodeU16ItemForVersion version encode x = some p) :
    Parses (decodeU16ItemForVersion version decode) p x := by
  cases version with
  | draft07 =>
    have body : Parses (StateT.lift (getDecoded decode (encode x)) : Decoder α) [] x := by
      rw [getDecoded_of_parses (exact.parses x)]
      exact Parses.lift x
    rw [← List.append_nil p]
    exact (ExactOn.parses exact_decodeU16Bytes trivial encoded).bind body
  | draft02 =>
    cases encoded
    exact exact.parses x

/-- What the versioned item decoder accepts is an encoding: under Draft07 `get_decoded` leaves
nothing of the u16-prefixed bytes over. -/
theorem sound_decodeU16ItemForVersion (version : DapVersion) {encode : α → Bytes}
    {decode : Decoder α} (exact : Exact encode decode) :
    Sound (fun _ => True) (encodeU16ItemForVersion version encode)
      (decodeU16ItemForVersion version decode) := by
  intro b x rest h
  cases version with
  | draft07 =>
    obtain ⟨bytes, r, framed, inner⟩ := bind_eq_ok.mp h
    obtain ⟨decoded, rfl⟩ := lift_eq_ok.mp inner
    obtain ⟨-, p, encoded, rfl⟩ := exact_decodeU16Bytes.mp framed
    have whole : bytes = encode x := by simpa using exact.mp (getDecoded_eq_ok.mp decoded)
    subst whole
    exact ⟨trivial, p, encoded, rfl⟩
  | draft02 => exact ⟨trivial, _, rfl, exact.mp h⟩

theorem local_decodeU16ItemForVersion (version : DapVersion) {decode : Decoder α}
    (loc : Local decode) : Local (decodeU16ItemForVersion version decode) := by
  cases version with
  | draft07 =>
    apply Local.bind (ExactOn.isLocal exact_decodeU16Bytes)
    exact fun bytes => Local.lift (getDecoded decode bytes)
  | draft02 => exact loc

/-! ## `NotImplemented` parameters -/

/-- The `NotImplemented { typ, param }` arm of the taskprov encoders: `param` is written
u16-prefixed under Draft07 and bare under Draft02. -/
def encodeNotImplementedParam (version : DapVersion) (param : Bytes) : Option Bytes :=
  match version with
  | .draft07 => encodeU16Bytes param
  | .draft02 => some param

/-- A `NotImplemented` parameter fits its prefix: at most 65535 bytes under Draft07, where it is
written after a u16 length; any under Draft02, where it is written bare. -/
def ParamFits : DapVersion → Bytes → Prop
  | .draft07, param => param.length < 256 ^ 2
  | .draft02, _ => True

instance : (version : DapVersion) → DecidablePred (ParamFits version)
  | .draft07 => fun _ => inferInstanceAs (Decidable (_ < _))
  | .draft02 => fun _ => inferInstanceAs (Decidable True)

theorem encodeNotImplementedParam_isSome {version : DapVersion} {param : Bytes}
    (fits : ParamFits version param) : (encodeNotImplementedParam version param).isSome := by
  cases version with
  | draft07 =>
    obtain ⟨p, encoded, -⟩ := sized_encodePrefixedBytes 2 param fits
    simp [encodeNotImplementedParam, encodeU16Bytes, encoded]
  | draft02 => rfl

/-- The `NotImplemented` arms of the taskprov decoders: under Draft07 `param` is read as
u16-prefixed bytes; under Draft02 its end cannot be found, and decoding fails with
`UnexpectedValue`. -/
def decodeNotImplementedParam (version : DapVersion) : Decoder Bytes :=
  match version with
  | .draft07 => decodeU16Bytes
  | .draft02 => throw .unexpectedValue

theorem roundTrips_decodeNotImplementedParam {version : DapVersion} {param p : Bytes}
    (encoded : encodeNotImplementedParam version param = some p) :
    RoundTrips version false (decodeNotImplementedParam version) p param := by
  cases version with
  | draft07 => exact ExactOn.parses exact_decodeU16Bytes trivial encoded
  | draft02 => exact Refuses.throw _ _

theorem sound_decodeNotImplementedParam (version : DapVersion) :
    Sound (fun _ => True) (encodeNotImplementedParam version)
      (decodeNotImplementedParam version) := by
  cases version with
  | draft07 => exact exact_decodeU16Bytes.sound
  | draft02 => exact fun h => nomatch h

theorem local_decodeNotImplementedParam (version : DapVersion) :
    Local (decodeNotImplementedParam version) := by
  cases version with
  | draft07 => exact ExactOn.isLocal exact_decodeU16Bytes
  | draft02 => exact Local.throw _

end Taskprov

end Daphne
