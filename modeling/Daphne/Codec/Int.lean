/-
# Daphne.Codec.Int — fixed-width integers in network byte order

prio encodes `u8`, `u16`, `u32` and `u64` as their `to_be_bytes` and decodes them with
`read_exact` and `from_be_bytes`. The four codecs are one family: `encodeBE width` and
`decodeBE width` over the natural number a word denotes, and each member composes them with its
type's `toNat` and `ofNat`.

`exact_decodeBE` is the family's one law: `decodeBE width` returns `n` exactly on the `width`
bytes of `n` (for `n < 256 ^ width`). `exact_word` carries it through `toNat`/`ofNat`, and every
member is `Exact` by one application of it.
-/
import Daphne.Codec.Decoder
import Mathlib.Algebra.Group.Nat.Basic

namespace Daphne

set_option autoImplicit false

open Decoder

/-! ## Big-endian naturals -/

/-- The `width` low-order bytes of `n`, most significant first. -/
def encodeBE : Nat → Nat → Bytes
  | 0, _ => []
  | width + 1, n => encodeBE width (n / 256) ++ [UInt8.ofNat n]

/-- The natural number a big-endian byte string denotes. -/
def ofBytesBE (bytes : Bytes) : Nat :=
  bytes.foldl (fun acc b => acc * 256 + b.toNat) 0

/-- `uN::decode`: read `width` bytes and take the number they denote. -/
def decodeBE (width : Nat) : Decoder Nat :=
  ofBytesBE <$> readExact width

@[simp] theorem encodeBE_length (width n : Nat) : (encodeBE width n).length = width := by
  induction width generalizing n with
  | zero => rfl
  | succ width ih => simp [encodeBE, ih]

theorem ofBytesBE_append_single (bytes : Bytes) (b : UInt8) :
    ofBytesBE (bytes ++ [b]) = ofBytesBE bytes * 256 + b.toNat := by
  simp [ofBytesBE, List.foldl_append]

theorem ofBytesBE_encodeBE (width n : Nat) : ofBytesBE (encodeBE width n) = n % 256 ^ width := by
  induction width generalizing n with
  | zero => simp [encodeBE, ofBytesBE, Nat.mod_one]
  | succ width ih =>
    rw [encodeBE, ofBytesBE_append_single, ih, Nat.pow_succ', Nat.mod_mul]
    simp only [UInt8.toNat, UInt8.ofNat, BitVec.toNat_ofNat]
    omega

theorem encodeBE_ofBytesBE (bytes : Bytes) : encodeBE bytes.length (ofBytesBE bytes) = bytes := by
  induction bytes using List.reverseRecOn with
  | nil => rfl
  | append_singleton bytes b ih =>
    have digit : (ofBytesBE bytes * 256 + b.toNat) / 256 = ofBytesBE bytes := by
      have : b.toNat < 256 := b.toNat_lt_size; omega
    have low : UInt8.ofNat (ofBytesBE bytes * 256 + b.toNat) = b := by
      apply UInt8.toNat.inj
      simp only [UInt8.toNat, UInt8.ofNat, BitVec.toNat_ofNat]
      have : b.toNat < 256 := b.toNat_lt_size; omega
    rw [List.length_append, List.length_singleton, encodeBE, ofBytesBE_append_single, digit, ih, low]

theorem ofBytesBE_lt (bytes : Bytes) : ofBytesBE bytes < 256 ^ bytes.length := by
  induction bytes using List.reverseRecOn with
  | nil => simp [ofBytesBE]
  | append_singleton bytes b ih =>
    rw [ofBytesBE_append_single, List.length_append, List.length_singleton, Nat.pow_succ]
    have : b.toNat < 256 := b.toNat_lt_size
    omega

/-- `decodeBE width` returns `n` exactly on the `width` bytes of `n`, and only for `n` that fit. -/
theorem decodeBE_eq_ok {width n : Nat} {b rest : Bytes} :
    decodeBE width b = .ok (n, rest) ↔ n < 256 ^ width ∧ b = encodeBE width n ++ rest := by
  simp only [decodeBE, map_eq_ok, readExact_eq_ok]
  constructor
  · rintro ⟨bytes, ⟨rfl, rfl⟩, rfl⟩
    exact ⟨ofBytesBE_lt bytes, by rw [encodeBE_ofBytesBE]⟩
  · rintro ⟨fits, rfl⟩
    exact ⟨encodeBE width n, ⟨encodeBE_length width n, rfl⟩,
      by rw [ofBytesBE_encodeBE, Nat.mod_eq_of_lt fits]⟩

/-! ## Words -/

section Word

variable {τ : Type} {width : Nat} {toNat : τ → Nat} {ofNat : Nat → τ}

/-- A word type of `width` bytes codes through `toNat` and `ofNat` exactly as its number does. -/
theorem exact_word (toNat_lt : ∀ x, toNat x < 256 ^ width)
    (ofNat_toNat : ∀ x, ofNat (toNat x) = x) (toNat_ofNat : ∀ n, n < 256 ^ width → toNat (ofNat n) = n) :
    Exact (fun x => encodeBE width (toNat x)) (ofNat <$> decodeBE width) := by
  intro b x rest
  simp only [map_eq_ok, decodeBE_eq_ok]
  constructor
  · rintro ⟨n, ⟨fits, rfl⟩, rfl⟩
    rw [toNat_ofNat n fits]
  · rintro rfl
    exact ⟨toNat x, ⟨toNat_lt x, rfl⟩, ofNat_toNat x⟩

end Word

/-- `u8::encode`. -/
def encodeU8 (x : UInt8) : Bytes := encodeBE 1 x.toNat
/-- `u8::decode`. -/
def decodeU8 : Decoder UInt8 := UInt8.ofNat <$> decodeBE 1

/-- `u16::encode`. -/
def encodeU16 (x : UInt16) : Bytes := encodeBE 2 x.toNat
/-- `u16::decode`. -/
def decodeU16 : Decoder UInt16 := UInt16.ofNat <$> decodeBE 2

/-- `u32::encode`. -/
def encodeU32 (x : UInt32) : Bytes := encodeBE 4 x.toNat
/-- `u32::decode`. -/
def decodeU32 : Decoder UInt32 := UInt32.ofNat <$> decodeBE 4

/-- `u64::encode`. -/
def encodeU64 (x : UInt64) : Bytes := encodeBE 8 x.toNat
/-- `u64::decode`. -/
def decodeU64 : Decoder UInt64 := UInt64.ofNat <$> decodeBE 8

theorem exact_decodeU8 : Exact encodeU8 decodeU8 :=
  exact_word UInt8.toNat_lt_size (fun x => UInt8.toNat.inj (by simp [UInt8.toNat, UInt8.ofNat, x.toNat_lt_size]))
    fun _ fits => UInt8.toNat_ofNat_of_lt fits

theorem exact_decodeU16 : Exact encodeU16 decodeU16 :=
  exact_word UInt16.toNat_lt_size (fun x => UInt16.toNat.inj (by simp [UInt16.toNat, UInt16.ofNat, x.toNat_lt_size]))
    fun _ fits => UInt16.toNat_ofNat_of_lt fits

theorem exact_decodeU32 : Exact encodeU32 decodeU32 :=
  exact_word UInt32.toNat_lt_size (fun x => UInt32.toNat.inj (by simp [UInt32.toNat, UInt32.ofNat, x.toNat_lt_size]))
    fun _ fits => UInt32.toNat_ofNat_of_lt fits

theorem exact_decodeU64 : Exact encodeU64 decodeU64 :=
  exact_word UInt64.toNat_lt_size (fun x => UInt64.toNat.inj (by simp [UInt64.toNat, UInt64.ofNat, x.toNat_lt_size]))
    fun _ fits => UInt64.toNat_ofNat_of_lt fits

end Daphne
