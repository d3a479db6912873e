/-
# Daphne.Codec.Decoder — cursors, decoders, and the laws every codec keeps

prio's `Decode::decode` reads from a `Cursor<&[u8]>`: it fails with a `CodecError`, or returns a
value with the cursor moved past what it read. A cursor is modelled by the bytes it has not read,
so a decoder maps the unread bytes to a value and the bytes still unread (`Decoder`, a `StateT`
over `Except CodecError`). `Encode::encode` appends to a `Vec<u8>`; its model returns the bytes it
appends, and `none` where the source panics. `getDecoded` is prio's `get_decoded`: decode a whole
buffer and refuse what is left over.

Four laws, stated once here for every decoder:

* `Parses dec p x` — `dec` reads exactly `p` and returns `x`, whatever follows `p`;
* `Canonical encode dec` — every input `dec` accepts starts with the encoding of the value it
  returns;
* `Sound Valid encode dec` — `Canonical`, and every value `dec` returns is valid;
* `Local dec` — `dec` depends only on the bytes it consumes (`Local.bind` composes it).

and one for encoders: `SizedOn Fits size encode` — `encode` panics on no value that `Fits` (whose
variable-length fields fit their length prefixes) and writes it in `size` bytes.

`getDecoded_truncated` is what locality buys: a local decoder that parses `p ++ s` rejects `p` for
every nonempty `s`, so a truncated message is never read as a shorter one.
-/
import Mathlib.Data.List.Basic

namespace Daphne

set_option autoImplicit false

/-- Bytes: the contents of a `Vec<u8>`, or what a cursor has not read yet. -/
abbrev Bytes := List UInt8

/-- prio's `CodecError`, with the variants the modelled decoders raise. -/
inductive CodecError where
  /-- `Io`: `read_exact` ran past the end of the buffer. -/
  | io
  /-- `BytesLeftOver(n)`: `get_decoded` stopped with `n` bytes unread. -/
  | bytesLeftOver (n : Nat)
  /-- `LengthPrefixTooBig(n)`: a length prefix claims more bytes than remain. -/
  | lengthPrefixTooBig (n : Nat)
  /-- `UnexpectedValue`: a discriminant or code the decoder does not accept. -/
  | unexpectedValue
  deriving DecidableEq, Repr

/-- A decoder: from the unread bytes, an error, or a value and the bytes it left unread. -/
abbrev Decoder (α : Type) := StateT Bytes (Except CodecError) α

variable {α β : Type}

/-! ## Running a decoder -/

namespace Decoder

@[simp] theorem pure_apply (x : α) (b : Bytes) : (pure x : Decoder α) b = .ok (x, b) := rfl

@[simp] theorem throw_apply (e : CodecError) (b : Bytes) :
    (throw e : Decoder α) b = .error e := rfl

@[simp] theorem bind_apply (d : Decoder α) (f : α → Decoder β) (b : Bytes) :
    (d >>= f) b = match d b with | .ok (a, r) => f a r | .error e => .error e := by
  show StateT.bind d f b = _
  simp only [StateT.bind, bind, Except.bind]
  rcases d b with e | ⟨a, r⟩ <;> rfl

@[simp] theorem map_apply (f : α → β) (d : Decoder α) (b : Bytes) :
    (f <$> d) b = match d b with | .ok (a, r) => .ok (f a, r) | .error e => .error e := by
  show StateT.map f d b = _
  simp only [StateT.map, bind, Except.bind]
  rcases d b with e | ⟨a, r⟩ <;> rfl

theorem bind_eq_ok {d : Decoder α} {f : α → Decoder β} {b rest : Bytes} {y : β} :
    (d >>= f) b = .ok (y, rest) ↔ ∃ a r, d b = .ok (a, r) ∧ f a r = .ok (y, rest) := by
  rw [bind_apply]
  rcases d b with e | ⟨a, r⟩ <;> simp [and_assoc]

theorem map_eq_ok {f : α → β} {d : Decoder α} {b rest : Bytes} {y : β} :
    (f <$> d) b = .ok (y, rest) ↔ ∃ a, d b = .ok (a, rest) ∧ f a = y := by
  rw [map_apply]
  rcases d b with e | ⟨a, r⟩
  · simp
  · simp only [Except.ok.injEq, Prod.mk.injEq]
    constructor
    · rintro ⟨rfl, rfl⟩
      exact ⟨a, ⟨rfl, rfl⟩, rfl⟩
    · rintro ⟨a', ⟨rfl, rfl⟩, rfl⟩
      exact ⟨rfl, rfl⟩

theorem except_map_eq_ok {f : α → β} {e : Except CodecError α} {y : β} :
    f <$> e = .ok y ↔ ∃ x, e = .ok x ∧ f x = y := by
  cases e <;> simp [Functor.map, Except.map]

theorem lift_eq_ok {e : Except CodecError α} {b rest : Bytes} {x : α} :
    (StateT.lift e : Decoder α) b = .ok (x, rest) ↔ e = .ok x ∧ b = rest := by
  cases e <;> simp [StateT.lift, bind, Except.bind, pure, Except.pure, eq_comm]

theorem pure_eq_ok {x y : α} {b rest : Bytes} :
    (pure x : Decoder α) b = .ok (y, rest) ↔ x = y ∧ b = rest := by simp

end Decoder

open Decoder

/-- `read_exact` into a buffer of `n` bytes: fails when fewer than `n` remain. -/
def readExact (n : Nat) : Decoder Bytes := fun b =>
  if n ≤ b.length then .ok (b.take n, b.drop n) else .error .io

/-- prio's `get_decoded`: decode from a whole buffer; bytes left over are an error. -/
def getDecoded (dec : Decoder α) (bytes : Bytes) : Except CodecError α :=
  match dec bytes with
  | .ok (decoded, []) => .ok decoded
  | .ok (_, rest) => .error (.bytesLeftOver rest.length)
  | .error e => .error e

theorem readExact_eq_ok {n : Nat} {b x rest : Bytes} :
    readExact n b = .ok (x, rest) ↔ x.length = n ∧ b = x ++ rest := by
  unfold readExact
  split
  · simp only [Except.ok.injEq, Prod.mk.injEq]
    constructor
    · rintro ⟨rfl, rfl⟩
      simp_all
    · rintro ⟨rfl, rfl⟩
      simp
  · simp only [reduceCtorEq, false_iff, not_and]
    rintro rfl rfl
    simp_all

theorem getDecoded_eq_ok {dec : Decoder α} {b : Bytes} {x : α} :
    getDecoded dec b = .ok x ↔ dec b = .ok (x, []) := by
  unfold getDecoded
  split <;> simp_all

/-! ## The laws -/

/-- `dec` reads exactly `p` and returns `x`: on `p` followed by any bytes it returns `x` and leaves
those bytes unread. -/
def Parses (dec : Decoder α) (p : Bytes) (x : α) : Prop :=
  ∀ rest, dec (p ++ rest) = .ok (x, rest)

/-- Every input `dec` accepts starts with the encoding of the value it returns, and `dec` stops
right after that encoding. -/
def Canonical (encode : α → Option Bytes) (dec : Decoder α) : Prop :=
  ∀ {b x rest}, dec b = .ok (x, rest) → ∃ p, encode x = some p ∧ b = p ++ rest

/-- `dec` depends only on the bytes it consumes: each success consumed a prefix of its input, and
`dec` parses that prefix as the same value whatever follows it. -/
def Local (dec : Decoder α) : Prop :=
  ∀ {b x rest}, dec b = .ok (x, rest) → ∃ p, b = p ++ rest ∧ Parses dec p x

/-- `dec` accepts exactly what the total `encode` produces: it returns `x` precisely on `encode x`
followed by anything. Fixed-width fields are decoded this way. -/
@[reducible] def Exact (encode : α → Bytes) (dec : Decoder α) : Prop :=
  ∀ {b x rest}, dec b = .ok (x, rest) ↔ b = encode x ++ rest

/-- `dec` accepts exactly the encodings of valid values: it returns `x` precisely on an encoding of
a valid `x` followed by anything. This is `Canonical`, the round trip on valid values, and the
validity of every decoded value, in one statement. -/
@[reducible] def ExactOn (Valid : α → Prop) (encode : α → Option Bytes) (dec : Decoder α) : Prop :=
  ∀ {b x rest}, dec b = .ok (x, rest) ↔ Valid x ∧ ∃ p, encode x = some p ∧ b = p ++ rest

/-- What `dec` accepts is well formed: every success returns a valid value, and consumed an
encoding of it. This is the half of `ExactOn` that a decoder can keep without its encoder's
round trip. -/
def Sound (Valid : α → Prop) (encode : α → Option Bytes) (dec : Decoder α) : Prop :=
  ∀ {b x rest}, dec b = .ok (x, rest) → Valid x ∧ ∃ p, encode x = some p ∧ b = p ++ rest

/-- `encode` writes every value that `Fits`, in `size` bytes. -/
def SizedOn (Fits : α → Prop) (size : α → Nat) (encode : α → Option Bytes) : Prop :=
  ∀ x, Fits x → ∃ p, encode x = some p ∧ p.length = size x

/-- A total encoder writes every value. -/
theorem SizedOn.of_total (encode : α → Bytes) :
    SizedOn (fun _ => True) (fun x => (encode x).length) (fun x => some (encode x)) :=
  fun _ _ => ⟨_, rfl, rfl⟩

namespace Parses

theorem pure (x : α) : Parses (Pure.pure x : Decoder α) [] x := fun _ => rfl

theorem bind {d : Decoder α} {f : α → Decoder β} {p q : Bytes} {a : α} {y : β}
    (first : Parses d p a) (second : Parses (f a) q y) : Parses (d >>= f) (p ++ q) y := by
  intro rest
  simp [first (q ++ rest), second rest]

theorem map {d : Decoder α} {p : Bytes} {a : α} (f : α → β) (parses : Parses d p a) :
    Parses (f <$> d) p (f a) := by
  intro rest
  simp [parses rest]

end Parses

theorem Parses.lift (x : α) : Parses (StateT.lift (.ok x) : Decoder α) [] x := fun _ => rfl

theorem parses_readExact (p : Bytes) : Parses (readExact p.length) p p := by
  intro rest
  simp [readExact]

theorem getDecoded_of_parses {dec : Decoder α} {p : Bytes} {x : α} (parses : Parses dec p x) :
    getDecoded dec p = .ok x := by
  simpa [getDecoded_eq_ok] using parses []

namespace Local

theorem pure (x : α) : Local (Pure.pure x : Decoder α) := by
  intro b y rest h
  obtain ⟨rfl, rfl⟩ := pure_eq_ok.mp h
  exact ⟨[], rfl, Parses.pure x⟩

theorem throw (e : CodecError) : Local (throw e : Decoder α) := by
  intro b y rest h
  simp at h

theorem bind {d : Decoder α} {f : α → Decoder β} (first : Local d) (second : ∀ a, Local (f a)) :
    Local (d >>= f) := by
  intro b y rest h
  obtain ⟨a, r, hd, hf⟩ := bind_eq_ok.mp h
  obtain ⟨p, rfl, pd⟩ := first hd
  obtain ⟨q, rfl, qf⟩ := second a hf
  exact ⟨p ++ q, by simp, pd.bind qf⟩

theorem map {d : Decoder α} (f : α → β) (inner : Local d) : Local (f <$> d) := by
  intro b y rest h
  obtain ⟨a, hd, rfl⟩ := map_eq_ok.mp h
  obtain ⟨p, rfl, pd⟩ := inner hd
  exact ⟨p, rfl, pd.map f⟩

theorem lift (e : Except CodecError α) : Local (StateT.lift e : Decoder α) := by
  intro b x rest h
  obtain ⟨rfl, rfl⟩ := lift_eq_ok.mp h
  exact ⟨[], rfl, Parses.lift x⟩

end Local

theorem local_readExact (n : Nat) : Local (readExact n) := by
  intro b x rest h
  obtain ⟨rfl, rfl⟩ := readExact_eq_ok.mp h
  exact ⟨x, rfl, parses_readExact x⟩

/-- `dec` fails on `p` followed by any bytes. -/
def Refuses (dec : Decoder α) (p : Bytes) : Prop :=
  ∀ rest, ∃ e, dec (p ++ rest) = .error e

namespace Refuses

theorem throw (e : CodecError) (p : Bytes) : Refuses (MonadExcept.throw e : Decoder α) p :=
  fun _ => ⟨e, rfl⟩

/-- A decoder that fails on its first field fails whatever follows. -/
theorem bind_left {d : Decoder α} {p : Bytes} (first : Refuses d p) (f : α → Decoder β)
    (q : Bytes) : Refuses (d >>= f) (p ++ q) := by
  intro rest
  obtain ⟨e, he⟩ := first (q ++ rest)
  exact ⟨e, by simp [he]⟩

/-- A decoder whose first field parses and whose next field fails, fails. -/
theorem bind_right {d : Decoder α} {f : α → Decoder β} {p q : Bytes} {a : α}
    (first : Parses d p a) (second : Refuses (f a) q) : Refuses (d >>= f) (p ++ q) := by
  intro rest
  obtain ⟨e, he⟩ := second rest
  exact ⟨e, by simp [first (q ++ rest), he]⟩

theorem map {d : Decoder α} {p : Bytes} (f : α → β) (inner : Refuses d p) : Refuses (f <$> d) p := by
  intro rest
  obtain ⟨e, he⟩ := inner rest
  exact ⟨e, by simp [he]⟩

end Refuses

namespace Exact

variable {encode : α → Bytes} {dec : Decoder α}

theorem apply_append (exact : Exact encode dec) (x : α) (rest : Bytes) :
    dec (encode x ++ rest) = .ok (x, rest) :=
  exact.mpr rfl

theorem parses (exact : Exact encode dec) (x : α) : Parses dec (encode x) x :=
  exact.apply_append x

theorem isLocal (exact : Exact encode dec) : Local dec :=
  fun h => ⟨_, exact.mp h, exact.parses _⟩

theorem canonical (exact : Exact encode dec) : Canonical (fun x => some (encode x)) dec :=
  fun h => ⟨_, rfl, exact.mp h⟩

/-- A total encoder's exact decoder accepts exactly the encodings of all values. -/
theorem exactOn (exact : Exact encode dec) :
    ExactOn (fun _ => True) (fun x => some (encode x)) dec := by
  intro b x rest
  simp [exact]

end Exact

namespace ExactOn

variable {Valid : α → Prop} {encode : α → Option Bytes} {dec : Decoder α}

theorem parses (exact : ExactOn Valid encode dec) {x : α} {p : Bytes} (valid : Valid x)
    (encoded : encode x = some p) : Parses dec p x :=
  fun _ => exact.mpr ⟨valid, p, encoded, rfl⟩

theorem canonical (exact : ExactOn Valid encode dec) : Canonical encode dec :=
  fun h => (exact.mp h).2

theorem valid (exact : ExactOn Valid encode dec) {b rest : Bytes} {x : α}
    (h : dec b = .ok (x, rest)) : Valid x :=
  (exact.mp h).1

theorem isLocal (exact : ExactOn Valid encode dec) : Local dec := by
  intro b x rest h
  obtain ⟨valid, p, encoded, rfl⟩ := exact.mp h
  exact ⟨p, rfl, exact.parses valid encoded⟩

theorem sound (exact : ExactOn Valid encode dec) : Sound Valid encode dec :=
  fun h => exact.mp h

/-- A sound decoder that parses every encoding of a valid value accepts exactly those. -/
theorem of_sound (sound : Sound Valid encode dec)
    (parses : ∀ {x p}, Valid x → encode x = some p → Parses dec p x) :
    ExactOn Valid encode dec :=
  fun {_ _ rest} =>
    ⟨sound, fun ⟨valid, _, encoded, same⟩ => same ▸ parses valid encoded rest⟩

end ExactOn

/-- A truncated encoding is refused: if a local decoder parses `p ++ s` as `x`, then
`get_decoded` fails on `p` for every nonempty `s`. Were `p` accepted as some `y`, locality would
make the decoder parse `p ++ s` as `y` with `s` left over, not as `x` with nothing left. -/
theorem getDecoded_truncated {dec : Decoder α} (loc : Local dec) {p s : Bytes} {x : α}
    (parses : Parses dec (p ++ s) x) (cut : s ≠ []) : ∃ e, getDecoded dec p = .error e := by
  cases h : getDecoded dec p with
  | error e => exact ⟨e, rfl⟩
  | ok y =>
    obtain ⟨q, hq, qy⟩ := loc (getDecoded_eq_ok.mp h)
    rw [List.append_nil] at hq
    subst hq
    have whole := parses []
    rw [List.append_nil, qy s] at whole
    simp only [Except.ok.injEq, Prod.mk.injEq] at whole
    exact absurd whole.2 cut

end Daphne
