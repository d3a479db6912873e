/-
# Daphne.Messages.Aggregate — aggregation requests, transitions and responses

`BatchParameter` is a `u16` query type followed, for a fixed-size batch, by the batch id.
`TransitionVar` is a one-byte tag: `0` carries a `u32`-prefixed VDAF message, `1` is `Finished`, `2`
carries a `TransitionFailure`, whose one byte is its discriminant (`0` to `6`). Any other tag,
query type or failure code is `UnexpectedValue`.

Each type's `exact` says its decoder accepts exactly the encodings of its values; in particular no
undefined tag or code is ever accepted, and every accepted tag re-encodes to itself.
-/
import Daphne.Messages.Report

namespace Daphne.Messages

set_option autoImplicit false

open Decoder

/-- `QUERY_TYPE_TIME_INTERVAL`. -/
def queryTypeTimeInterval : UInt16 := 0x0001
/-- `QUERY_TYPE_FIXED_SIZE`. -/
def queryTypeFixedSize : UInt16 := 0x0002

/-! ## Batch parameters -/

/-- The batch a leader's aggregation job draws from. -/
inductive BatchParameter where
  | timeInterval
  | fixedSize (batchId : Id)
  deriving DecidableEq, Repr

namespace BatchParameter

/-- `Encode for BatchParameter`. -/
def encode : BatchParameter → Bytes
  | timeInterval => encodeU16 queryTypeTimeInterval
  | fixedSize batchId => encodeU16 queryTypeFixedSize ++ batchId.encode

/-- `Decode for BatchParameter`. -/
def decode : Decoder BatchParameter := do
  let queryType ← decodeU16
  if queryType = queryTypeTimeInterval then pure timeInterval
  else if queryType = queryTypeFixedSize then do
    let batchId ← Id.decode
    pure (fixedSize batchId)
  else throw .unexpectedValue

theorem exact : Exact encode decode := by
  intro b param rest
  simp only [decode, bind_eq_ok, exact_decodeU16]
  constructor
  · rintro ⟨queryType, _, rfl, h⟩
    split at h
    · obtain ⟨rfl, rfl⟩ := pure_eq_ok.mp h
      simp_all [encode]
    · split at h
      · obtain ⟨batchId, _, rfl, rfl, rfl⟩ := by
          simpa only [bind_eq_ok, pure_eq_ok, Id.exact] using h
        simp_all [encode]
      · simp at h
  · rintro rfl
    have distinct : queryTypeFixedSize ≠ queryTypeTimeInterval := by decide
    cases param with
    | timeInterval => exact ⟨_, _, rfl, by simp⟩
    | fixedSize batchId =>
      refine ⟨queryTypeFixedSize, batchId.encode ++ rest, by simp [encode], ?_⟩
      rw [if_neg distinct, if_pos rfl]
      exact bind_eq_ok.mpr ⟨batchId, rest, Id.exact.mpr rfl, rfl⟩

end BatchParameter

/-! ## Transitions -/

/-- Transition error. -/
inductive TransitionFailure where
  | batchCollected
  | reportReplayed
  | reportDropped
  | hpkeUnknownConfigId
  | hpkeDecryptError
  | vdafPrepError
  | batchSaturated
  deriving DecidableEq, Repr

namespace TransitionFailure

/-- The discriminant, `*self as u8`. -/
def toU8 : TransitionFailure → UInt8
  | batchCollected => 0
  | reportReplayed => 1
  | reportDropped => 2
  | hpkeUnknownConfigId => 3
  | hpkeDecryptError => 4
  | vdafPrepError => 5
  | batchSaturated => 6

/-- The variants in the order `try_from` tests them. -/
def all : List TransitionFailure :=
  [batchCollected, reportReplayed, reportDropped, hpkeUnknownConfigId, hpkeDecryptError,
    vdafPrepError, batchSaturated]

/-- `TryFrom<u8> for TransitionFailure`: the first variant whose discriminant is `v`. -/
def tryFrom (v : UInt8) : Except CodecError TransitionFailure :=
  match all.find? (fun failure => failure.toU8 = v) with
  | some failure => .ok failure
  | none => .error .unexpectedValue

/-- `Encode for TransitionFailure`. -/
def encode (failure : TransitionFailure) : Bytes := encodeU8 failure.toU8

/-- `Decode for TransitionFailure`. -/
def decode : Decoder TransitionFailure := do
  let v ← decodeU8
  StateT.lift (tryFrom v)

theorem tryFrom_eq_ok {v : UInt8} {failure : TransitionFailure} :
    tryFrom v = .ok failure ↔ failure.toU8 = v := by
  constructor
  · intro h
    unfold tryFrom at h
    split at h
    · rename_i found
      simp only [Except.ok.injEq] at h
      subst h
      simpa using List.find?_some found
    · simp at h
  · rintro rfl
    cases failure <;> rfl

theorem exact : Exact encode decode := by
  intro b failure rest
  simp only [decode, bind_eq_ok, exact_decodeU8, lift_eq_ok, tryFrom_eq_ok, encode]
  constructor
  · rintro ⟨_, _, rfl, rfl, rfl⟩
    rfl
  · rintro rfl
    exact ⟨_, _, rfl, rfl, rfl⟩

end TransitionFailure

/-- Transition message variant. -/
inductive TransitionVar where
  | continued (vdafMessage : Bytes)
  | finished
  | failed (err : TransitionFailure)
  deriving DecidableEq, Repr

namespace TransitionVar

/-- `Encode for TransitionVar`. -/
def encode : TransitionVar → Option Bytes
  | continued vdafMessage => do
    let message ← encodeU32Bytes vdafMessage
    pure (encodeU8 0 ++ message)
  | finished => pure (encodeU8 1)
  | failed err => pure (encodeU8 2 ++ err.encode)

/-- `Decode for TransitionVar`. -/
def decode : Decoder TransitionVar := do
  let tag ← decodeU8
  if tag = 0 then do
    let vdafMessage ← decodeU32Bytes
    pure (continued vdafMessage)
  else if tag = 1 then pure finished
  else if tag = 2 then do
    let err ← TransitionFailure.decode
    pure (failed err)
  else throw .unexpectedValue

theorem exact : ExactOn (fun _ => True) encode decode := by
  intro b var rest
  simp only [decode, bind_eq_ok, exact_decodeU8, true_and]
  constructor
  · rintro ⟨tag, _, rfl, h⟩
    split at h
    · obtain ⟨message, _, ⟨-, p, hp, rfl⟩, rfl, rfl⟩ := by
        simpa only [bind_eq_ok, pure_eq_ok, exact_decodeU32Bytes] using h
      subst tag
      exact ⟨encodeU8 0 ++ p, by simp [encode, hp], by simp⟩
    · split at h
      · obtain ⟨rfl, rfl⟩ := pure_eq_ok.mp h
        subst tag
        exact ⟨_, rfl, rfl⟩
      · split at h
        · obtain ⟨err, _, rfl, rfl, rfl⟩ := by
            simpa only [bind_eq_ok, pure_eq_ok, TransitionFailure.exact] using h
          subst tag
          exact ⟨_, rfl, by simp⟩
        · simp at h
  · rintro ⟨p, hp, rfl⟩
    cases var with
    | continued vdafMessage =>
      simp only [encode, bind, Option.bind_eq_some, pure, Option.some.injEq] at hp
      obtain ⟨p, hp, rfl⟩ := hp
      refine ⟨0, p ++ rest, by simp, ?_⟩
      rw [if_pos rfl]
      exact bind_eq_ok.mpr ⟨vdafMessage, rest, exact_decodeU32Bytes.mpr ⟨trivial, p, hp, rfl⟩, rfl⟩
    | finished =>
      obtain rfl := Option.some.inj hp
      exact ⟨1, _, rfl, by simp⟩
    | failed err =>
      obtain rfl := Option.some.inj hp
      refine ⟨2, err.encode ++ rest, by simp, ?_⟩
      rw [if_neg (by decide), if_neg (by decide), if_pos rfl]
      exact bind_eq_ok.mpr ⟨err, rest, TransitionFailure.exact.mpr rfl, rfl⟩

/-- A continued transition's VDAF message fits its `u32` length. -/
def Fits : TransitionVar → Prop
  | continued vdafMessage => vdafMessage.length < 256 ^ 4
  | _ => True

instance : DecidablePred Fits
  | continued _ => inferInstanceAs (Decidable (_ < _))
  | finished => inferInstanceAs (Decidable True)
  | failed _ => inferInstanceAs (Decidable True)

/-- The length of the encoding: the tag, then the variant's body. -/
def size : TransitionVar → Nat
  | continued vdafMessage => 1 + (4 + vdafMessage.length)
  | finished => 1
  | failed _ => 2

theorem sized : SizedOn Fits size encode
  | continued vdafMessage, fits => by
    obtain ⟨p, encoded, length⟩ := sized_encodePrefixedBytes 4 _ fits
    simp_arith [encode, encodeU32Bytes, encoded, size, length, encodeU8]
  | finished, _ => ⟨_, rfl, rfl⟩
  | failed _, _ => ⟨_, rfl, rfl⟩

end TransitionVar

/-- Transition message: a message sent from one Aggregator to another during the preparation
phase of VDAF evaluation. -/
structure Transition where
  nonce : Nonce
  var : TransitionVar
  deriving DecidableEq, Repr

namespace Transition

/-- `Encode for Transition`. -/
def encode (transition : Transition) : Option Bytes := do
  let var ← transition.var.encode
  pure (transition.nonce.encode ++ var)

/-- `Decode for Transition`. -/
def decode : Decoder Transition := do
  let nonce ← Nonce.decode
  let var ← TransitionVar.decode
  pure { nonce, var }

theorem exact : ExactOn (fun _ => True) encode decode := by
  intro b transition rest
  simp only [decode, bind_eq_ok, pure_eq_ok, Nonce.exact, TransitionVar.exact, true_and]
  constructor
  · rintro ⟨nonce, _, rfl, var, _, ⟨p, hp, rfl⟩, rfl, rfl⟩
    exact ⟨nonce.encode ++ p, by simp [encode, hp], by simp⟩
  · rintro ⟨p, hp, rfl⟩
    simp only [encode, bind, Option.bind_eq_some, pure, Option.some.injEq] at hp
    obtain ⟨p, hp, rfl⟩ := hp
    simp only [List.append_assoc]
    exact ⟨_, _, rfl, _, _, ⟨_, hp, rfl⟩, rfl, rfl⟩

/-- Every encoding starts with the sixteen-byte nonce, so the item loop always moves on. -/
def item : ItemDecoder Transition :=
  .ofExactOn exact fun {transition p} encoded => by
    simp only [encode, bind, Option.bind_eq_some, pure, Option.some.injEq] at encoded
    obtain ⟨_, _, rfl⟩ := encoded
    simp only [List.length_append, Nonce.encode, transition.nonce.length_eq]
    omega

theorem exact_items :
    ExactOn (fun xs => ∀ x ∈ xs, True) (encodeU32Items encode) (decodeU32Items item) :=
  exact_decodePrefixedItems 4 item exact

/-- The variant fits its prefixes. -/
def Fits (transition : Transition) : Prop := transition.var.Fits

instance : DecidablePred Fits := fun transition => inferInstanceAs (Decidable transition.var.Fits)

/-- The length of the encoding: the nonce, then the variant. -/
def size (transition : Transition) : Nat := 16 + transition.var.size

theorem sized : SizedOn Fits size encode := by
  intro transition fits
  obtain ⟨v, encoded, length⟩ := TransitionVar.sized _ fits
  simp [encode, encoded, size, length, Nonce.encode, transition.nonce.length_eq]

end Transition

/-! ## Requests and responses -/

/-- Aggregate initialization request. -/
structure AggregateInitializeReq where
  taskId : Id
  aggJobId : Id
  aggParam : Bytes
  batchParam : BatchParameter
  reportShares : List ReportShare
  deriving DecidableEq, Repr

namespace AggregateInitializeReq

/-- `Encode for AggregateInitializeReq`. -/
def encode (req : AggregateInitializeReq) : Option Bytes := do
  let aggParam ← encodeU16Bytes req.aggParam
  let reportShares ← encodeU32Items ReportShare.encode req.reportShares
  pure (req.taskId.encode ++ req.aggJobId.encode ++ aggParam ++ req.batchParam.encode ++
    reportShares)

/-- `Decode for AggregateInitializeReq`. -/
def decode : Decoder AggregateInitializeReq := do
  let taskId ← Id.decode
  let aggJobId ← Id.decode
  let aggParam ← decodeU16Bytes
  let batchParam ← BatchParameter.decode
  let reportShares ← decodeU32Items ReportShare.item
  pure { taskId, aggJobId, aggParam, batchParam, reportShares }

theorem exact : ExactOn (fun _ => True) encode decode := by
  intro b req rest
  simp only [decode, bind_eq_ok, pure_eq_ok, Id.exact, exact_decodeU16Bytes, BatchParameter.exact,
    ReportShare.exact_items, true_and, implies_true]
  constructor
  · rintro ⟨taskId, _, rfl, aggJobId, _, rfl, aggParam, _, ⟨a, ha, rfl⟩, batchParam, _, rfl,
      reportShares, _, ⟨s, hs, rfl⟩, rfl, rfl⟩
    exact ⟨taskId.encode ++ aggJobId.encode ++ a ++ batchParam.encode ++ s,
      by simp [encode, ha, hs], by simp⟩
  · rintro ⟨p, hp, rfl⟩
    simp only [encode, bind, Option.bind_eq_some, pure, Option.some.injEq] at hp
    obtain ⟨a, ha, s, hs, rfl⟩ := hp
    simp only [List.append_assoc]
    exact ⟨_, _, rfl, _, _, rfl, _, _, ⟨_, ha, rfl⟩, _, _, rfl, _, _, ⟨_, hs, rfl⟩, rfl, rfl⟩

/-- The aggregation parameter fits its `u16` length and the report shares their `u32` byte
length. -/
def Fits (req : AggregateInitializeReq) : Prop :=
  req.aggParam.length < 256 ^ 2 ∧ ItemsFit ReportShare.Fits ReportShare.size 4 req.reportShares

instance : DecidablePred Fits := fun _ => inferInstanceAs (Decidable (_ ∧ _))

/-- The length of the encoding. -/
def size (req : AggregateInitializeReq) : Nat :=
  32 + 32 + (2 + req.aggParam.length) + req.batchParam.encode.length +
    (4 + itemsLength ReportShare.size req.reportShares)

theorem sized : SizedOn Fits size encode := by
  rintro req ⟨fitsParam, fitsShares⟩
  obtain ⟨a, encodedParam, lengthParam⟩ := sized_encodePrefixedBytes 2 _ fitsParam
  obtain ⟨s, encodedShares, lengthShares⟩ :=
    sized_encodePrefixedItems 4 ReportShare.sized _ fitsShares
  simp_arith [encode, encodeU16Bytes, encodeU32Items, encodedParam, encodedShares, size,
    lengthParam, lengthShares, Id.encode, req.taskId.length_eq, req.aggJobId.length_eq]

end AggregateInitializeReq

/-- Aggregate continuation request. -/
structure AggregateContinueReq where
  taskId : Id
  aggJobId : Id
  transitions : List Transition
  deriving DecidableEq, Repr

namespace AggregateContinueReq

/-- `Encode for AggregateContinueReq`. -/
def encode (req : AggregateContinueReq) : Option Bytes := do
  let transitions ← encodeU32Items Transition.encode req.transitions
  pure (req.taskId.encode ++ req.aggJobId.encode ++ transitions)

/-- `Decode for AggregateContinueReq`. -/
def decode : Decoder AggregateContinueReq := do
  let taskId ← Id.decode
  let aggJobId ← Id.decode
  let transitions ← decodeU32Items Transition.item
  pure { taskId, aggJobId, transitions }

theorem exact : ExactOn (fun _ => True) encode decode := by
  intro b req rest
  simp only [decode, bind_eq_ok, pure_eq_ok, Id.exact, Transition.exact_items, true_and,
    implies_true]
  constructor
  · rintro ⟨taskId, _, rfl, aggJobId, _, rfl, transitions, _, ⟨t, ht, rfl⟩, rfl, rfl⟩
    exact ⟨taskId.encode ++ aggJobId.encode ++ t, by simp [encode, ht], by simp⟩
  · rintro ⟨p, hp, rfl⟩
    simp only [encode, bind, Option.bind_eq_some, pure, Option.some.injEq] at hp
    obtain ⟨t, ht, rfl⟩ := hp
    simp only [List.append_assoc]
    exact ⟨_, _, rfl, _, _, rfl, _, _, ⟨_, ht, rfl⟩, rfl, rfl⟩

/-- The transitions fit their `u32` byte length. -/
def Fits (req : AggregateContinueReq) : Prop :=
  ItemsFit Transition.Fits Transition.size 4 req.transitions

instance : DecidablePred Fits := fun _ => inferInstanceAs (Decidable (ItemsFit _ _ _ _))

/-- The length of the encoding. -/
def size (req : AggregateContinueReq) : Nat :=
  32 + 32 + (4 + itemsLength Transition.size req.transitions)

theorem sized : SizedOn Fits size encode := by
  intro req fits
  obtain ⟨t, encoded, length⟩ := sized_encodePrefixedItems 4 Transition.sized _ fits
  simp_arith [encode, encodeU32Items, encoded, size, length, Id.encode, req.taskId.length_eq,
    req.aggJobId.length_eq]

end AggregateContinueReq

/-- An aggregate response sent from the Helper to the Leader. -/
structure AggregateResp where
  transitions : List Transition
  deriving DecidableEq, Repr

namespace AggregateResp

/-- `Encode for AggregateResp`. -/
def encode (resp : AggregateResp) : Option Bytes :=
  encodeU32Items Transition.encode resp.transitions

/-- `Decode for AggregateResp`. -/
def decode : Decoder AggregateResp := do
  let transitions ← decodeU32Items Transition.item
  pure { transitions }

theorem exact : ExactOn (fun _ => True) encode decode := by
  intro b resp rest
  simp only [decode, bind_eq_ok, pure_eq_ok, Transition.exact_items, true_and, implies_true]
  constructor
  · rintro ⟨transitions, _, ⟨t, ht, rfl⟩, rfl, rfl⟩
    exact ⟨t, ht, rfl⟩
  · rintro ⟨p, hp, rfl⟩
    exact ⟨_, _, ⟨_, hp, rfl⟩, rfl, rfl⟩

/-- The transitions fit their `u32` byte length. -/
def Fits (resp : AggregateResp) : Prop :=
  ItemsFit Transition.Fits Transition.size 4 resp.transitions

instance : DecidablePred Fits := fun _ => inferInstanceAs (Decidable (ItemsFit _ _ _ _))

/-- The length of the encoding. -/
def size (resp : AggregateResp) : Nat := 4 + itemsLength Transition.size resp.transitions

theorem sized : SizedOn Fits size encode :=
  fun resp => sized_encodePrefixedItems 4 Transition.sized resp.transitions

end AggregateResp

end Daphne.Messages
