/-
# Daphne.Messages.Collect — intervals, queries, collection and aggregate-share messages

A `Query` (the Leader's `BatchSelector` is the same type) is a `u16` query type followed by a batch
interval — two `u64`s — or a batch id. `CollectReq` and `AggregateShareReq` end their selectors with
a `u16`-prefixed aggregation parameter; the share request then carries the report count and the
raw 32-byte checksum. Each type's `exact` says its decoder accepts exactly the encodings of its
values.

`Interval::is_valid_for` reads one field of the task configuration, `min_batch_duration`, and
`Interval::end` adds the two `u64`s; `checkedRem` and `checkedAdd` are Rust's `%` and `+` with
`none` where they panic. `isValidFor_eq` says once what the check does, and from it:

* `isValidFor_eq_none_iff`: the check panics exactly when `min_batch_duration` is zero, on every
  interval;
* `isValidFor_eq_some_true_iff`: otherwise it accepts exactly the aligned intervals at least one
  `min_batch_duration` long;
* `exists_valid_endTime_eq_none_iff`: for every nonzero `min_batch_duration` some accepted interval
  has an end past `u64`, so `end` overflows on validated intervals.

`isValidFor_panics_or_accepts_overflow` shows both on intervals the decoder reads.
-/
import Daphne.Messages.Aggregate

namespace Daphne.Messages

set_option autoImplicit false

open Decoder

/-! ## Intervals and queries -/

/-- A batch interval. -/
structure Interval where
  start : UInt64
  duration : UInt64
  deriving DecidableEq, Repr

namespace Interval

/-- `Encode for Interval`. -/
def encode (interval : Interval) : Bytes := encodeU64 interval.start ++ encodeU64 interval.duration

/-- `Decode for Interval`. -/
def decode : Decoder Interval := do
  let start ← decodeU64
  let duration ← decodeU64
  pure { start, duration }

theorem exact : Exact encode decode := by
  intro b interval rest
  simp only [decode, bind_eq_ok, pure_eq_ok, exact_decodeU64]
  constructor
  · rintro ⟨start, _, rfl, duration, _, rfl, rfl, rfl⟩
    simp [encode]
  · rintro rfl
    exact ⟨_, _, by simp [encode], _, _, rfl, rfl, rfl⟩

end Interval

/-! ## Validating an interval -/

/-- Rust's `%` on `u64`: `none` where the divisor is zero and the source panics. -/
def checkedRem (a b : UInt64) : Option UInt64 := if b = 0 then none else some (a % b)

/-- Rust's `+` on `u64`: `none` where the sum overflows, where a debug build panics; a release
build returns the wrapped sum `a + b`. -/
def checkedAdd (a b : UInt64) : Option UInt64 :=
  if a.toNat + b.toNat < 2 ^ 64 then some (a + b) else none

namespace Interval

/-- `Interval::end`, `self.start + self.duration` (`end` is a keyword in Lean). -/
def endTime (interval : Interval) : Option UInt64 := checkedAdd interval.start interval.duration

/-- `Interval::is_valid_for`, given `task_config.min_batch_duration`, the one field of the task
configuration it reads; `none` where a `%` panics. `||` stops at the first check that holds. -/
def isValidFor (interval : Interval) (minBatchDuration : UInt64) : Option Bool := do
  if (← checkedRem interval.start minBatchDuration) ≠ 0 then return false
  if (← checkedRem interval.duration minBatchDuration) ≠ 0 then return false
  if interval.duration < minBatchDuration then return false
  return true

/-- What `is_valid_for` does: panic on a zero `min_batch_duration`, otherwise check that both
ends are multiples of it and that the duration is at least one of it. -/
theorem isValidFor_eq (interval : Interval) (minBatchDuration : UInt64) :
    interval.isValidFor minBatchDuration =
      if minBatchDuration = 0 then none
      else some (decide (interval.start % minBatchDuration = 0 ∧
        interval.duration % minBatchDuration = 0 ∧ minBatchDuration ≤ interval.duration)) := by
  by_cases zero : minBatchDuration = 0 <;> simp [isValidFor, checkedRem, zero]
  split_ifs <;> simp_all [← UInt64.not_lt]

theorem endTime_eq_none_iff (interval : Interval) :
    interval.endTime = none ↔ 2 ^ 64 ≤ interval.start.toNat + interval.duration.toNat := by
  simp [endTime, checkedAdd]

/-- `is_valid_for` panics exactly on a zero `min_batch_duration`, whatever the interval. -/
theorem isValidFor_eq_none_iff (interval : Interval) (minBatchDuration : UInt64) :
    interval.isValidFor minBatchDuration = none ↔ minBatchDuration = 0 := by
  rw [isValidFor_eq]
  split <;> simp_all

/-- `is_valid_for` accepts exactly the intervals whose start and duration are multiples of a
nonzero `min_batch_duration`, with the duration at least one of it. -/
theorem isValidFor_eq_some_true_iff (interval : Interval) (minBatchDuration : UInt64) :
    interval.isValidFor minBatchDuration = some true ↔ minBatchDuration ≠ 0 ∧
      interval.start % minBatchDuration = 0 ∧ interval.duration % minBatchDuration = 0 ∧
      minBatchDuration ≤ interval.duration := by
  rw [isValidFor_eq]
  split <;> simp_all

/-- The last multiple of `minBatchDuration` that a `u64` holds, as an interval one
`minBatchDuration` long. -/
def lastInterval (minBatchDuration : UInt64) : Interval :=
  ⟨UInt64.ofNat ((2 ^ 64 - 1) / minBatchDuration.toNat * minBatchDuration.toNat), minBatchDuration⟩

theorem lastInterval_start_toNat (minBatchDuration : UInt64) :
    (lastInterval minBatchDuration).start.toNat =
      (2 ^ 64 - 1) / minBatchDuration.toNat * minBatchDuration.toNat :=
  UInt64.toNat_ofNat_of_lt (Nat.lt_of_le_of_lt (Nat.div_mul_le_self _ _) (by decide))

/-- **Accepted intervals can overflow.** For every nonzero `min_batch_duration`, and only for
those, `is_valid_for` accepts an interval whose end does not fit in a `u64`: the last multiple of
it that a `u64` holds, one `min_batch_duration` long. -/
theorem exists_valid_endTime_eq_none_iff (minBatchDuration : UInt64) :
    (∃ interval : Interval, interval.isValidFor minBatchDuration = some true ∧
      interval.endTime = none) ↔ minBatchDuration ≠ 0 := by
  constructor
  · rintro ⟨interval, valid, -⟩
    exact ((isValidFor_eq_some_true_iff interval minBatchDuration).mp valid).1
  · intro nonzero
    have positive : 0 < minBatchDuration.toNat := Nat.pos_of_ne_zero fun zero =>
      nonzero (UInt64.toNat.inj zero)
    refine ⟨lastInterval minBatchDuration,
      (isValidFor_eq_some_true_iff _ _).mpr ⟨nonzero, ?_, ?_, UInt64.le_refl _⟩, ?_⟩
    · apply UInt64.toNat.inj
      rw [UInt64.toNat_mod, lastInterval_start_toNat, Nat.mul_mod_left]
      rfl
    · apply UInt64.toNat.inj
      rw [UInt64.toNat_mod, lastInterval, Nat.mod_self]
      rfl
    · rw [endTime_eq_none_iff, lastInterval_start_toNat]
      exact Nat.lt_div_mul_add positive

/-- Both hazards on intervals that `Interval::decode` reads: with `min_batch_duration = 0` the first
`%` panics, and with `min_batch_duration = 1` the interval that starts at `2^64 - 1` and lasts 1 is
accepted while its end overflows, wrapping to `0` in a release build. -/
theorem isValidFor_panics_or_accepts_overflow :
    decode (⟨0, 0⟩ : Interval).encode = .ok (⟨0, 0⟩, []) ∧
      (⟨0, 0⟩ : Interval).isValidFor 0 = none ∧
      decode (⟨18446744073709551615, 1⟩ : Interval).encode =
        .ok (⟨18446744073709551615, 1⟩, []) ∧
      (⟨18446744073709551615, 1⟩ : Interval).isValidFor 1 = some true ∧
      (⟨18446744073709551615, 1⟩ : Interval).endTime = none ∧
      (18446744073709551615 + 1 : UInt64) = 0 :=
  ⟨exact.mpr (List.append_nil _).symm, rfl, exact.mpr (List.append_nil _).symm, rfl, rfl, rfl⟩

end Interval

/-- A query issued by the Collector in a collect request. -/
inductive Query where
  | timeInterval (batchInterval : Interval)
  | fixedSize (batchId : Id)
  deriving DecidableEq, Repr

namespace Query

/-- `Query::unwrap_interval`: the batch interval of a time-interval query; the source panics on a
fixed-size query, which the model returns as `none`. -/
def unwrapInterval : Query → Option Interval
  | timeInterval batchInterval => some batchInterval
  | fixedSize _ => none

/-- `Encode for Query`. -/
def encode : Query → Bytes
  | timeInterval batchInterval => encodeU16 queryTypeTimeInterval ++ batchInterval.encode
  | fixedSize batchId => encodeU16 queryTypeFixedSize ++ batchId.encode

/-- `Decode for Query`. -/
def decode : Decoder Query := do
  let queryType ← decodeU16
  if queryType = queryTypeTimeInterval then do
    let batchInterval ← Interval.decode
    pure (timeInterval batchInterval)
  else if queryType = queryTypeFixedSize then do
    let batchId ← Id.decode
    pure (fixedSize batchId)
  else throw .unexpectedValue

theorem exact : Exact encode decode := by
  intro b query rest
  simp only [decode, bind_eq_ok, exact_decodeU16]
  constructor
  · rintro ⟨queryType, _, rfl, h⟩
    split at h
    · obtain ⟨batchInterval, _, rfl, rfl, rfl⟩ := by
        simpa only [bind_eq_ok, pure_eq_ok, Interval.exact] using h
      simp_all [encode]
    · split at h
      · obtain ⟨batchId, _, rfl, rfl, rfl⟩ := by
          simpa only [bind_eq_ok, pure_eq_ok, Id.exact] using h
        simp_all [encode]
      · simp at h
  · rintro rfl
    have distinct : queryTypeFixedSize ≠ queryTypeTimeInterval := by decide
    cases query with
    | timeInterval batchInterval =>
      refine ⟨queryTypeTimeInterval, batchInterval.encode ++ rest, by simp [encode], ?_⟩
      rw [if_pos rfl]
      exact bind_eq_ok.mpr ⟨batchInterval, rest, Interval.exact.mpr rfl, rfl⟩
    | fixedSize batchId =>
      refine ⟨queryTypeFixedSize, batchId.encode ++ rest, by simp [encode], ?_⟩
      rw [if_neg distinct, if_pos rfl]
      exact bind_eq_ok.mpr ⟨batchId, rest, Id.exact.mpr rfl, rfl⟩

end Query

/-- A batch selector issued by the Leader in an aggregate-share request: the same structure as
`Query`. -/
abbrev BatchSelector := Query

/-! ## Collection -/

/-- A collect request. -/
structure CollectReq where
  taskId : Id
  query : Query
  aggParam : Bytes
  deriving DecidableEq, Repr

namespace CollectReq

/-- `Encode for CollectReq`. -/
def encode (req : CollectReq) : Option Bytes := do
  let aggParam ← encodeU16Bytes req.aggParam
  pure (req.taskId.encode ++ req.query.encode ++ aggParam)

/-- `Decode for CollectReq`. -/
def decode : Decoder CollectReq := do
  let taskId ← Id.decode
  let query ← Query.decode
  let aggParam ← decodeU16Bytes
  pure { taskId, query, aggParam }

theorem exact : ExactOn (fun _ => True) encode decode := by
  intro b req rest
  simp only [decode, bind_eq_ok, pure_eq_ok, Id.exact, Query.exact, exact_decodeU16Bytes, true_and]
  constructor
  · rintro ⟨taskId, _, rfl, query, _, rfl, aggParam, _, ⟨a, ha, rfl⟩, rfl, rfl⟩
    exact ⟨taskId.encode ++ query.encode ++ a, by simp [encode, ha], by simp⟩
  · rintro ⟨p, hp, rfl⟩
    simp only [encode, bind, Option.bind_eq_some, pure, Option.some.injEq] at hp
    obtain ⟨a, ha, rfl⟩ := hp
    simp only [List.append_assoc]
    exact ⟨_, _, rfl, _, _, rfl, _, _, ⟨_, ha, rfl⟩, rfl, rfl⟩

/-- The aggregation parameter fits its `u16` length. -/
def Fits (req : CollectReq) : Prop := req.aggParam.length < 256 ^ 2

instance : DecidablePred Fits := fun _ => inferInstanceAs (Decidable (_ < _))

/-- The length of the encoding. -/
def size (req : CollectReq) : Nat := 32 + req.query.encode.length + (2 + req.aggParam.length)

theorem sized : SizedOn Fits size encode := by
  intro req fits
  obtain ⟨a, encoded, length⟩ := sized_encodePrefixedBytes 2 _ fits
  simp_arith [encode, encodeU16Bytes, encoded, size, length, Id.encode, req.taskId.length_eq]

end CollectReq

/-- A collect response. -/
structure CollectResp where
  reportCount : UInt64
  encryptedAggShares : List HpkeCiphertext
  deriving DecidableEq, Repr

namespace CollectResp

/-- `Encode for CollectResp`. -/
def encode (resp : CollectResp) : Option Bytes := do
  let shares ← encodeU32Items HpkeCiphertext.encode resp.encryptedAggShares
  pure (encodeU64 resp.reportCount ++ shares)

/-- `Decode for CollectResp`. -/
def decode : Decoder CollectResp := do
  let reportCount ← decodeU64
  let encryptedAggShares ← decodeU32Items HpkeCiphertext.item
  pure { reportCount, encryptedAggShares }

theorem exact : ExactOn (fun _ => True) encode decode := by
  intro b resp rest
  simp only [decode, bind_eq_ok, pure_eq_ok, exact_decodeU64, HpkeCiphertext.exact_items, true_and,
    implies_true]
  constructor
  · rintro ⟨reportCount, _, rfl, shares, _, ⟨s, hs, rfl⟩, rfl, rfl⟩
    exact ⟨encodeU64 reportCount ++ s, by simp [encode, hs], by simp⟩
  · rintro ⟨p, hp, rfl⟩
    simp only [encode, bind, Option.bind_eq_some, pure, Option.some.injEq] at hp
    obtain ⟨s, hs, rfl⟩ := hp
    simp only [List.append_assoc]
    exact ⟨_, _, rfl, _, _, ⟨_, hs, rfl⟩, rfl, rfl⟩

/-- The aggregate shares fit their `u32` byte length. -/
def Fits (resp : CollectResp) : Prop :=
  ItemsFit HpkeCiphertext.Fits HpkeCiphertext.size 4 resp.encryptedAggShares

instance : DecidablePred Fits := fun _ => inferInstanceAs (Decidable (ItemsFit _ _ _ _))

/-- The length of the encoding. -/
def size (resp : CollectResp) : Nat :=
  8 + (4 + itemsLength HpkeCiphertext.size resp.encryptedAggShares)

theorem sized : SizedOn Fits size encode := by
  intro resp fits
  obtain ⟨s, encoded, length⟩ := sized_encodePrefixedItems 4 HpkeCiphertext.sized _ fits
  simp [encode, encodeU32Items, encoded, size, length, encodeU64]

end CollectResp

/-! ## Aggregate shares -/

/-- An aggregate-share request. -/
structure AggregateShareReq where
  taskId : Id
  batchSelector : BatchSelector
  aggParam : Bytes
  reportCount : UInt64
  checksum : FixedBytes 32
  deriving DecidableEq, Repr

namespace AggregateShareReq

/-- `Encode for AggregateShareReq`. -/
def encode (req : AggregateShareReq) : Option Bytes := do
  let aggParam ← encodeU16Bytes req.aggParam
  pure (req.taskId.encode ++ req.batchSelector.encode ++ aggParam ++ encodeU64 req.reportCount ++
    req.checksum.bytes)

/-- `Decode for AggregateShareReq`. -/
def decode : Decoder AggregateShareReq := do
  let taskId ← Id.decode
  let batchSelector ← Query.decode
  let aggParam ← decodeU16Bytes
  let reportCount ← decodeU64
  let checksum ← decodeFixedBytes 32
  pure { taskId, batchSelector, aggParam, reportCount, checksum }

theorem exact : ExactOn (fun _ => True) encode decode := by
  intro b req rest
  simp only [decode, bind_eq_ok, pure_eq_ok, Id.exact, Query.exact, exact_decodeU16Bytes,
    exact_decodeU64, exact_decodeFixedBytes, true_and]
  constructor
  · rintro ⟨taskId, _, rfl, selector, _, rfl, aggParam, _, ⟨a, ha, rfl⟩, reportCount, _, rfl,
      checksum, _, rfl, rfl, rfl⟩
    exact ⟨taskId.encode ++ selector.encode ++ a ++ encodeU64 reportCount ++ checksum.bytes,
      by simp [encode, ha], by simp⟩
  · rintro ⟨p, hp, rfl⟩
    simp only [encode, bind, Option.bind_eq_some, pure, Option.some.injEq] at hp
    obtain ⟨a, ha, rfl⟩ := hp
    simp only [List.append_assoc]
    exact ⟨_, _, rfl, _, _, rfl, _, _, ⟨_, ha, rfl⟩, _, _, rfl, _, _, rfl, rfl, rfl⟩

/-- The aggregation parameter fits its `u16` length. -/
def Fits (req : AggregateShareReq) : Prop := req.aggParam.length < 256 ^ 2

instance : DecidablePred Fits := fun _ => inferInstanceAs (Decidable (_ < _))

/-- The length of the encoding. -/
def size (req : AggregateShareReq) : Nat :=
  32 + req.batchSelector.encode.length + (2 + req.aggParam.length) + 8 + 32

theorem sized : SizedOn Fits size encode := by
  intro req fits
  obtain ⟨a, encoded, length⟩ := sized_encodePrefixedBytes 2 _ fits
  simp_arith [encode, encodeU16Bytes, encoded, size, length, Id.encode, req.taskId.length_eq,
    encodeU64, req.checksum.length_eq]

end AggregateShareReq

/-- An aggregate-share response. -/
structure AggregateShareResp where
  encryptedAggShare : HpkeCiphertext
  deriving DecidableEq, Repr

namespace AggregateShareResp

/-- `Encode for AggregateShareResp`. -/
def encode (resp : AggregateShareResp) : Option Bytes :=
  resp.encryptedAggShare.encode

/-- `Decode for AggregateShareResp`. -/
def decode : Decoder AggregateShareResp := do
  let encryptedAggShare ← HpkeCiphertext.decode
  pure { encryptedAggShare }

theorem exact : ExactOn (fun _ => True) encode decode := by
  intro b resp rest
  simp only [decode, bind_eq_ok, pure_eq_ok, HpkeCiphertext.exact, true_and]
  constructor
  · rintro ⟨share, _, ⟨s, hs, rfl⟩, rfl, rfl⟩
    exact ⟨s, hs, rfl⟩
  · rintro ⟨p, hp, rfl⟩
    exact ⟨_, _, ⟨_, hp, rfl⟩, rfl, rfl⟩

/-- The ciphertext fits its prefixes. -/
def Fits (resp : AggregateShareResp) : Prop := resp.encryptedAggShare.Fits

instance : DecidablePred Fits :=
  fun resp => inferInstanceAs (Decidable resp.encryptedAggShare.Fits)

/-- The length of the encoding. -/
def size (resp : AggregateShareResp) : Nat := resp.encryptedAggShare.size

theorem sized : SizedOn Fits size encode :=
  fun resp => HpkeCiphertext.sized resp.encryptedAggShare

end AggregateShareResp

end Daphne.Messages
