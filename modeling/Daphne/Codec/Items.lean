/-
# Daphne.Codec.Items — length-prefixed byte strings and item lists

Two families of length-prefixed fields.

`encode_u16_bytes`, `decode_u16_bytes` and their `u32` twins (messages.rs) put a byte string after
its length. The encoders `expect` the length to fit its prefix; the model returns `none` where they
panic. `encodePrefixedBytes` and `decodePrefixedBytes` are the family; the members fix the width.

prio's `encode_u8_items`, `encode_u16_items` and `encode_u32_items` put a list of items after the
*byte length* of their encodings, and `decode_items` decodes items from a window of that many bytes
until the window is used up. The loop ends because every item decoder it is given consumes a byte
each time it succeeds: `ItemDecoder` carries that fact, and `decodeItemsFrom` recurses on the
window's length. `decodeItemsWhile` is the source's `while` loop for any decoder, with fuel:
`decodeItemsWhile_eq_some` says it ends within as many rounds as the window has bytes when the
decoder `Consumes`, and `decodeItemsWhile_stuck` that it never ends when the decoder returns
without consuming.

Laws: `exact_decodePrefixedBytes` (a byte string is accepted exactly on its encoding) and
`exact_decodePrefixedItems` (an item list is accepted exactly on its encoding when its items are);
`sized_encodePrefixedBytes` and `sized_encodePrefixedItems` (the encoders do not panic on what fits
its prefix, `ItemsFit` for a list).
-/
import Daphne.Codec.Int

namespace Daphne

set_option autoImplicit false

open Decoder

variable {α : Type}

/-! ## Fixed-length arrays -/

/-- A `[u8; n]`: exactly `n` bytes, written with no prefix. -/
@[ext] structure FixedBytes (n : Nat) where
  bytes : Bytes
  length_eq : bytes.length = n
  deriving DecidableEq, Repr

/-- `read_exact` into a `[u8; n]`. -/
def decodeFixedBytes (n : Nat) : Decoder (FixedBytes n) := fun b =>
  if h : n ≤ b.length then .ok (⟨b.take n, List.length_take_of_le h⟩, b.drop n) else .error .io

theorem exact_decodeFixedBytes (n : Nat) : Exact FixedBytes.bytes (decodeFixedBytes n) := by
  intro b x rest
  unfold decodeFixedBytes
  constructor
  · intro h
    split at h
    · simp only [Except.ok.injEq, Prod.mk.injEq] at h
      obtain ⟨rfl, rfl⟩ := h
      simp
    · simp at h
  · rintro rfl
    have fits : n ≤ (x.bytes ++ rest).length := by simp [x.length_eq]
    rw [dif_pos fits]
    have take : (x.bytes ++ rest).take n = x.bytes := by simp [← x.length_eq]
    have drop : (x.bytes ++ rest).drop n = rest := by simp [← x.length_eq]
    simp only [Except.ok.injEq, Prod.mk.injEq, drop, and_true]
    ext1
    exact take

/-! ## Byte strings after their length -/

/-- `encode_uN_bytes`: the length of `input` in `width` bytes, then `input`; `none` where
`uN::try_from(input.len()).expect(..)` panics. -/
def encodePrefixedBytes (width : Nat) (input : Bytes) : Option Bytes :=
  if input.length < 256 ^ width then some (encodeBE width input.length ++ input) else none

/-- `decode_uN_bytes`: a `width`-byte length, then `read_exact` of that many bytes. -/
def decodePrefixedBytes (width : Nat) : Decoder Bytes := do
  let len ← decodeBE width
  readExact len

/-- `encode_u16_bytes`. -/
def encodeU16Bytes : Bytes → Option Bytes := encodePrefixedBytes 2
/-- `decode_u16_bytes`. -/
def decodeU16Bytes : Decoder Bytes := decodePrefixedBytes 2
/-- `encode_u32_bytes`. -/
def encodeU32Bytes : Bytes → Option Bytes := encodePrefixedBytes 4
/-- `decode_u32_bytes`. -/
def decodeU32Bytes : Decoder Bytes := decodePrefixedBytes 4

/-- The encoder panics exactly when the length does not fit in `width` bytes. -/
theorem encodePrefixedBytes_eq_some {width : Nat} {input p : Bytes} :
    encodePrefixedBytes width input = some p ↔
      input.length < 256 ^ width ∧ p = encodeBE width input.length ++ input := by
  unfold encodePrefixedBytes
  split <;> simp_all [eq_comm]

theorem exact_decodePrefixedBytes (width : Nat) :
    ExactOn (fun _ => True) (encodePrefixedBytes width) (decodePrefixedBytes width) := by
  intro b x rest
  simp only [decodePrefixedBytes, bind_eq_ok, decodeBE_eq_ok, readExact_eq_ok,
    encodePrefixedBytes_eq_some, true_and]
  constructor
  · rintro ⟨len, _, ⟨fits, rfl⟩, rfl, rfl⟩
    exact ⟨_, ⟨fits, rfl⟩, by simp⟩
  · rintro ⟨p, ⟨fits, rfl⟩, rfl⟩
    exact ⟨x.length, x ++ rest, ⟨fits, by simp⟩, rfl, rfl⟩

/-- A byte string whose length fits in `width` bytes is written after that length. -/
theorem sized_encodePrefixedBytes (width : Nat) :
    SizedOn (fun input : Bytes => input.length < 256 ^ width) (fun input => width + input.length)
      (encodePrefixedBytes width) :=
  fun _ fits => ⟨_, encodePrefixedBytes_eq_some.mpr ⟨fits, rfl⟩, by simp⟩

theorem exact_decodeU16Bytes : ExactOn (fun _ => True) encodeU16Bytes decodeU16Bytes :=
  exact_decodePrefixedBytes 2

theorem exact_decodeU32Bytes : ExactOn (fun _ => True) encodeU32Bytes decodeU32Bytes :=
  exact_decodePrefixedBytes 4

/-! ## prio's item lists -/

/-- A decoder the loop of prio's `decode_items` can run: each success consumes at least one byte,
which is what makes the loop end. -/
structure ItemDecoder (α : Type) where
  decode : Decoder α
  consumes : ∀ {b x rest}, decode b = .ok (x, rest) → rest.length < b.length

/-- An exact decoder whose encodings are never empty consumes a byte on every success. -/
def ItemDecoder.ofExactOn {Valid : α → Prop} {encode : α → Option Bytes} {dec : Decoder α}
    (exact : ExactOn Valid encode dec) (nonempty : ∀ {x p}, encode x = some p → 0 < p.length) :
    ItemDecoder α where
  decode := dec
  consumes h := by
    obtain ⟨-, p, encoded, rfl⟩ := exact.mp h
    simpa using nonempty encoded

/-- The loop of prio's `decode_items`: decode items from the window until it is used up. -/
def decodeItemsFrom (item : ItemDecoder α) : Bytes → Except CodecError (List α)
  | [] => .ok []
  | b :: bs =>
    match h : item.decode (b :: bs) with
    | .error e => .error e
    | .ok (x, rest) =>
      have := item.consumes h
      (x :: ·) <$> decodeItemsFrom item rest
termination_by window => window.length

/-- `dec` consumes at least one byte each time it succeeds. -/
def Consumes (dec : Decoder α) : Prop :=
  ∀ {b x rest}, dec b = .ok (x, rest) → rest.length < b.length

/-- The `while sub.position() < length` loop of prio's `decode_items` for any decoder, run for at
most `fuel` rounds: each round decodes an item from what is left of the window, and the loop stops
when nothing is left. `none` is a loop still running when the fuel runs out. -/
def decodeItemsWhile (dec : Decoder α) : Nat → Bytes → Option (Except CodecError (List α))
  | _, [] => some (.ok [])
  | 0, _ :: _ => none
  | fuel + 1, b :: bs =>
    match dec (b :: bs) with
    | .error e => some (.error e)
    | .ok (x, rest) => (fun items => (x :: ·) <$> items) <$> decodeItemsWhile dec fuel rest

/-- prio's `decode_items`: the `length` bytes after the cursor are decoded as items and the cursor
moves past them; a `length` beyond the end of the buffer is `LengthPrefixTooBig`. -/
def decodeItems (item : ItemDecoder α) (length : Nat) : Decoder (List α) := fun bytes =>
  if length ≤ bytes.length then
    (fun items => (items, bytes.drop length)) <$> decodeItemsFrom item (bytes.take length)
  else .error (.lengthPrefixTooBig length)

/-- prio's `decode_uN_items`: a `width`-byte length, then `decode_items`. -/
def decodePrefixedItems (width : Nat) (item : ItemDecoder α) : Decoder (List α) := do
  let length ← decodeBE width
  decodeItems item length

/-- prio's `decode_uN_items` for any decoder, its loop run for at most `fuel` rounds. -/
def decodePrefixedItemsWhile (width : Nat) (dec : Decoder α) (fuel : Nat) (bytes : Bytes) :
    Option (Except CodecError (List α × Bytes)) :=
  match decodeBE width bytes with
  | .error e => some (.error e)
  | .ok (length, rest) =>
    if length ≤ rest.length then
      (fun items => (·, rest.drop length) <$> items) <$>
        decodeItemsWhile dec fuel (rest.take length)
    else some (.error (.lengthPrefixTooBig length))

/-- The items' encodings one after another: the loop of prio's `encode_uN_items`. -/
def encodeEach (encode : α → Option Bytes) : List α → Option Bytes
  | [] => some []
  | x :: xs => do
    let head ← encode x
    let tail ← encodeEach encode xs
    pure (head ++ tail)

/-- prio's `encode_uN_items`: the items after the byte length of their encodings in `width`
bytes; `none` where an item's encoder panics or the source's `assert!` on that length fails. -/
def encodePrefixedItems (width : Nat) (encode : α → Option Bytes) (items : List α) :
    Option Bytes := do
  let body ← encodeEach encode items
  if body.length < 256 ^ width then some (encodeBE width body.length ++ body) else none

/-- `encode_u8_items`. -/
def encodeU8Items (encode : α → Option Bytes) : List α → Option Bytes := encodePrefixedItems 1 encode
/-- `decode_u8_items`. -/
def decodeU8Items (item : ItemDecoder α) : Decoder (List α) := decodePrefixedItems 1 item
/-- `encode_u16_items`. -/
def encodeU16Items (encode : α → Option Bytes) : List α → Option Bytes := encodePrefixedItems 2 encode
/-- `decode_u16_items`. -/
def decodeU16Items (item : ItemDecoder α) : Decoder (List α) := decodePrefixedItems 2 item
/-- `encode_u32_items`. -/
def encodeU32Items (encode : α → Option Bytes) : List α → Option Bytes := encodePrefixedItems 4 encode
/-- `decode_u32_items`. -/
def decodeU32Items (item : ItemDecoder α) : Decoder (List α) := decodePrefixedItems 4 item

@[simp] theorem decodeItemsFrom_nil (item : ItemDecoder α) : decodeItemsFrom item [] = .ok [] := by
  rw [decodeItemsFrom]

/-- One round of the loop, whatever the item decoder returns. -/
theorem decodeItemsFrom_cons (item : ItemDecoder α) (b : UInt8) (bs : Bytes) :
    decodeItemsFrom item (b :: bs) = match item.decode (b :: bs) with
      | .error e => .error e
      | .ok (x, rest) => (x :: ·) <$> decodeItemsFrom item rest := by
  rw [decodeItemsFrom]
  split <;> simp_all

/-- The loop ends within as many rounds as the window has bytes, with the result of
`decodeItemsFrom`, because each round consumes a byte. -/
theorem decodeItemsWhile_eq_some (item : ItemDecoder α) {fuel : Nat} {window : Bytes}
    (enough : window.length ≤ fuel) :
    decodeItemsWhile item.decode fuel window = some (decodeItemsFrom item window) := by
  induction fuel generalizing window with
  | zero =>
    cases window with
    | nil => simp [decodeItemsWhile]
    | cons b bs => simp at enough
  | succ fuel ih =>
    cases window with
    | nil => simp [decodeItemsWhile]
    | cons b bs =>
      rw [decodeItemsWhile, decodeItemsFrom_cons]
      cases decoded : item.decode (b :: bs) with
      | error e => rfl
      | ok result =>
        obtain ⟨x, rest⟩ := result
        have next : rest.length ≤ fuel := by
          have shorter := item.consumes decoded
          simp only [List.length_cons] at enough shorter
          omega
        simp only [ih next]
        rfl

/-- `decode_uN_items` ends on every byte string within as many rounds as the string has bytes,
with the result of `decodePrefixedItems`. -/
theorem decodePrefixedItemsWhile_eq_some (width : Nat) (item : ItemDecoder α) {fuel : Nat}
    {bytes : Bytes} (enough : bytes.length ≤ fuel) :
    decodePrefixedItemsWhile width item.decode fuel bytes =
      some (decodePrefixedItems width item bytes) := by
  unfold decodePrefixedItemsWhile decodePrefixedItems
  cases read : decodeBE width bytes with
  | error e => simp [read]
  | ok result =>
    obtain ⟨length, rest⟩ := result
    obtain ⟨-, rfl⟩ := decodeBE_eq_ok.mp read
    simp only [bind_apply, read, decodeItems]
    split
    · have window : (rest.take length).length ≤ fuel := by
        simp only [List.length_append, List.length_take] at enough ⊢
        omega
      rw [decodeItemsWhile_eq_some item window]
      rfl
    · rfl

/-- A decoder that returns without consuming keeps the loop running, whatever the fuel. -/
theorem decodeItemsWhile_stuck {dec : Decoder α} {window : Bytes} {x : α} (nonempty : window ≠ [])
    (stuck : dec window = .ok (x, window)) (fuel : Nat) :
    decodeItemsWhile dec fuel window = none := by
  obtain ⟨b, bs, rfl⟩ := List.exists_cons_of_ne_nil nonempty
  induction fuel with
  | zero => rfl
  | succ fuel ih => simp [decodeItemsWhile, stuck, ih]

/-- One round of the loop on an item the decoder parses. -/
theorem decodeItemsFrom_of_parses (item : ItemDecoder α) {p : Bytes} {x : α}
    (parses : Parses item.decode p x) (window : Bytes) :
    decodeItemsFrom item (p ++ window) = (x :: ·) <$> decodeItemsFrom item window := by
  have first := parses window
  cases p with
  | nil =>
    have := item.consumes (parses [])
    simp at this
  | cons b bs =>
    rw [List.cons_append] at first ⊢
    rw [decodeItemsFrom_cons, first]

theorem encodeEach_eq_some_cons {encode : α → Option Bytes} {x : α} {xs : List α} {body : Bytes} :
    encodeEach encode (x :: xs) = some body ↔
      ∃ head, encode x = some head ∧ ∃ tail, encodeEach encode xs = some tail ∧ head ++ tail = body := by
  simp [encodeEach, Option.bind_eq_some]

/-- The encoder panics exactly when an item's encoder does, or when the items' encodings do not
fit in `width` bytes of length. -/
theorem encodePrefixedItems_eq_some {width : Nat} {encode : α → Option Bytes} {xs : List α}
    {p : Bytes} :
    encodePrefixedItems width encode xs = some p ↔ ∃ body, encodeEach encode xs = some body ∧
      body.length < 256 ^ width ∧ p = encodeBE width body.length ++ body := by
  unfold encodePrefixedItems
  cases encodeEach encode xs with
  | none => simp
  | some body => by_cases fits : body.length < 256 ^ width <;> simp [fits, eq_comm]

/-- The bytes the items' encodings take together, each taking `size`. -/
def itemsLength (size : α → Nat) : List α → Nat
  | [] => 0
  | x :: xs => size x + itemsLength size xs

/-- An item list fits a `width`-byte prefix: every item fits its own prefixes, and the items'
encodings take fewer than `256 ^ width` bytes together. -/
def ItemsFit (Fits : α → Prop) (size : α → Nat) (width : Nat) (xs : List α) : Prop :=
  (∀ x ∈ xs, Fits x) ∧ itemsLength size xs < 256 ^ width

instance {Fits : α → Prop} [DecidablePred Fits] {size : α → Nat} {width : Nat} :
    DecidablePred (ItemsFit Fits size width) :=
  fun _ => inferInstanceAs (Decidable (_ ∧ _))

section Sized

variable {Fits : α → Prop} {size : α → Nat} {encode : α → Option Bytes}

theorem SizedOn.encodeEach (sized : SizedOn Fits size encode) :
    SizedOn (fun xs => ∀ x ∈ xs, Fits x) (itemsLength size) (encodeEach encode) := by
  intro xs fits
  induction xs with
  | nil => exact ⟨[], rfl, rfl⟩
  | cons x xs ih =>
    obtain ⟨head, hx, headLength⟩ := sized x (fits x (List.mem_cons_self x xs))
    obtain ⟨tail, hxs, tailLength⟩ := ih fun y hy => fits y (List.mem_cons_of_mem x hy)
    exact ⟨head ++ tail, encodeEach_eq_some_cons.mpr ⟨head, hx, tail, hxs, rfl⟩,
      by simp [itemsLength, headLength, tailLength]⟩

/-- An item list that fits its prefix is written after the byte length of its items. -/
theorem sized_encodePrefixedItems (width : Nat) (sized : SizedOn Fits size encode) :
    SizedOn (ItemsFit Fits size width) (fun xs => width + itemsLength size xs)
      (encodePrefixedItems width encode) := by
  rintro xs ⟨fits, bound⟩
  obtain ⟨body, encoded, length⟩ := sized.encodeEach xs fits
  exact ⟨_, encodePrefixedItems_eq_some.mpr ⟨body, encoded, length ▸ bound, rfl⟩, by simp [length]⟩

end Sized

section Exact

variable {Valid : α → Prop} {encode : α → Option Bytes} {item : ItemDecoder α}

/-- The loop accepts exactly the windows that are the encodings of valid items. -/
theorem decodeItemsFrom_eq_ok (exact : ExactOn Valid encode item.decode) {window : Bytes}
    {xs : List α} :
    decodeItemsFrom item window = .ok xs ↔ (∀ x ∈ xs, Valid x) ∧ encodeEach encode xs = some window := by
  constructor
  · intro h
    induction window using decodeItemsFrom.induct item generalizing xs with
    | case1 =>
      simp only [decodeItemsFrom_nil, Except.ok.injEq] at h
      subst h
      exact ⟨by simp, rfl⟩
    | case2 b bs e failed => simp [decodeItemsFrom_cons, failed] at h
    | case3 b bs x rest decoded _ ih =>
      obtain ⟨valid, p, encoded, hp⟩ := exact.mp decoded
      rw [decodeItemsFrom_cons, decoded] at h
      obtain ⟨ys, hrest, rfl⟩ := except_map_eq_ok.mp h
      obtain ⟨validYs, tail⟩ := ih hrest
      refine ⟨List.forall_mem_cons.mpr ⟨valid, validYs⟩, ?_⟩
      simp [encodeEach, encoded, tail, hp]
  · rintro ⟨valid, encoded⟩
    induction xs generalizing window with
    | nil =>
      simp only [encodeEach, Option.some.injEq] at encoded
      simp [← encoded]
    | cons x xs ih =>
      obtain ⟨head, hx, tail, hxs, rfl⟩ := encodeEach_eq_some_cons.mp encoded
      rw [decodeItemsFrom_of_parses item (exact.parses (valid x (by simp)) hx),
        ih (fun y hy => valid y (by simp [hy])) hxs]
      rfl

end Exact

/-- An item list is accepted exactly on its encoding, when its items are. -/
theorem exact_decodePrefixedItems {Valid : α → Prop} {encode : α → Option Bytes} (width : Nat)
    (item : ItemDecoder α) (exact : ExactOn Valid encode item.decode) :
    ExactOn (fun xs => ∀ x ∈ xs, Valid x) (encodePrefixedItems width encode)
      (decodePrefixedItems width item) := by
  intro b xs rest
  simp only [decodePrefixedItems, bind_eq_ok, decodeBE_eq_ok, encodePrefixedItems_eq_some]
  constructor
  · rintro ⟨len, r, ⟨fits, rfl⟩, h⟩
    unfold decodeItems at h
    split at h
    · rename_i enough
      obtain ⟨xs, decoded, ⟨⟩⟩ := except_map_eq_ok.mp h
      obtain ⟨valid, body⟩ := (decodeItemsFrom_eq_ok exact).mp decoded
      have length : (r.take len).length = len := List.length_take_of_le enough
      refine ⟨valid, encodeBE width len ++ r.take len,
        ⟨r.take len, body, ?_, by rw [length]⟩, by simp⟩
      rwa [length]
    · simp at h
  · rintro ⟨valid, p, ⟨body, encoded, fits, rfl⟩, rfl⟩
    refine ⟨body.length, body ++ rest, ⟨fits, by simp⟩, ?_⟩
    simp [decodeItems, (decodeItemsFrom_eq_ok exact).mpr ⟨valid, encoded⟩]

end Daphne
