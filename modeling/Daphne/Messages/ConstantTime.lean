/-
# Daphne.Messages.ConstantTime — `constant_time_eq` decides byte equality

`constant_time_eq` checks the lengths, then folds `r |= x ^ y` over every pair of bytes and tests
`r == 0`, so that no branch depends on where the slices differ. `constantTimeEq_iff` says it
returns `true` exactly on equal slices. The loop invariant is `foldl_or_xor_eq_zero`: the OR of the
XORs is zero exactly when the accumulator started at zero and the slices agree so far.
-/
import Daphne.Codec.Decoder
import Mathlib.Data.Nat.Bitwise

namespace Daphne.Messages

set_option autoImplicit false

/-- `constant_time_eq`. -/
def constantTimeEq (left right : Bytes) : Bool :=
  if left.length ≠ right.length then false
  else (left.zip right).foldl (fun r pair => r ||| (pair.1 ^^^ pair.2)) 0 == 0

theorem or_eq_zero_iff {a b : UInt8} : a ||| b = 0 ↔ a = 0 ∧ b = 0 := by
  have nat : a.toNat ||| b.toNat = 0 ↔ a.toNat = 0 ∧ b.toNat = 0 := by
    constructor
    · intro h
      have bits : ∀ i, a.toNat.testBit i = false ∧ b.toNat.testBit i = false := fun i => by
        simpa [Nat.testBit_lor] using congrArg (Nat.testBit · i) h
      exact ⟨Nat.eq_of_testBit_eq fun i => by simp [(bits i).1],
        Nat.eq_of_testBit_eq fun i => by simp [(bits i).2]⟩
    · rintro ⟨ha, hb⟩
      rw [ha, hb]
      rfl
  have zero : ∀ x : UInt8, x = 0 ↔ x.toNat = 0 := fun x =>
    ⟨fun h => by rw [h]; rfl, fun h => UInt8.toNat.inj h⟩
  rw [zero, zero, zero]
  exact nat

theorem xor_eq_zero_iff {a b : UInt8} : a ^^^ b = 0 ↔ a = b := by
  constructor
  · intro h
    apply UInt8.toNat.inj
    exact Nat.xor_eq_zero.mp (congrArg UInt8.toNat h)
  · rintro rfl
    apply UInt8.toNat.inj
    exact Nat.xor_eq_zero.mpr rfl

/-- The loop invariant of `constant_time_eq`. -/
theorem foldl_or_xor_eq_zero (left right : Bytes) (same : left.length = right.length)
    (acc : UInt8) :
    (left.zip right).foldl (fun r pair => r ||| (pair.1 ^^^ pair.2)) acc = 0 ↔
      acc = 0 ∧ left = right := by
  induction left generalizing right acc with
  | nil =>
    cases right with
    | nil => simp
    | cons _ _ => simp at same
  | cons x xs ih =>
    cases right with
    | nil => simp at same
    | cons y ys =>
      simp only [List.zip_cons_cons, List.foldl_cons, List.cons.injEq]
      rw [ih ys (by simpa using same), or_eq_zero_iff, xor_eq_zero_iff, and_assoc]

/-- `constant_time_eq` is equality: the same length and the same byte at every index. -/
theorem constantTimeEq_iff (left right : Bytes) : constantTimeEq left right = true ↔ left = right := by
  unfold constantTimeEq
  split
  · rename_i differ
    simp only [Bool.false_eq_true, false_iff]
    exact fun h => differ (congrArg List.length h)
  · rename_i same
    rw [beq_iff_eq, foldl_or_xor_eq_zero left right (not_not.mp same)]
    simp

end Daphne.Messages
