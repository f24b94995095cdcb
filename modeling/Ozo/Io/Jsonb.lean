import Mathlib.Data.List.Basic

/-!
# The binary codec of `jsonb`

`pg::jsonb` holds the raw text of a JSON value. Its binary form is a version byte `1` followed by
the text: `size_of_impl` counts one byte more than the text, `send_impl` writes the version byte
and then the text, and `recv_impl`, given the size of the value in the input, refuses a size
below `1` with a `std::range_error`, reads and drops the version byte, resizes the output's text to
the remaining size and reads that many bytes into it.

Streams are lists of bytes: an output stream is the bytes written so far, an input stream the
bytes not yet read. A read past the end of the input fails. The size `recv_impl` receives is a
signed `size_type`, an integer here.

## Main definitions

* `Ozo.Pg.Jsonb`.
* `Ozo.Pg.Jsonb.sizeOf`, `Ozo.Pg.Jsonb.send`, `Ozo.Pg.Jsonb.recv`.

## Main results

* `Ozo.Pg.Jsonb.recv_eq_ok_iff`, `Ozo.Pg.Jsonb.recv_eq_error_iff`: what `recv` accepts (a size
  of `sizeOf v` and an input of one byte, the text and what follows) and how it fails otherwise.
* `Ozo.Pg.Jsonb.recv_send`: `send` writes `sizeOf v` bytes, the version byte and the text, and
  `recv` with that size reads back `v` from them, whatever the output held before, and leaves
  the input after them.

## References

* `include/ozo/jsonb.h`, `include/ozo/io/jsonb.h`.
-/

namespace Ozo.Pg

/-! ### Byte streams -/

/-- What reading a value can fail with. -/
inductive RecvError where
  /-- `std::range_error` with its message. -/
  | rangeError (msg : String)
  /-- A read past the end of the input. -/
  | endOfInput
  deriving DecidableEq, Repr

/-- `write(out, bytes)`: the bytes appended to the output. -/
def write (out bytes : List UInt8) : List UInt8 := out ++ bytes

/-- `read(in, v)` of a one-byte value. -/
def readByte : List UInt8 → Except RecvError (UInt8 × List UInt8)
  | [] => .error .endOfInput
  | b :: rest => .ok (b, rest)

/-- `read(in, out)` of a string: as many bytes as `out` holds, replacing them. -/
def readString (input out : List UInt8) : Except RecvError (List UInt8 × List UInt8) :=
  if out.length ≤ input.length then .ok (input.take out.length, input.drop out.length)
  else .error .endOfInput

/-- `std::string::resize(n)`: the first `n` bytes, padded with zero bytes. -/
def resize (s : List UInt8) (n : Nat) : List UInt8 :=
  s.take n ++ List.replicate (n - s.length) 0

@[simp] theorem length_resize (s : List UInt8) (n : Nat) : (resize s n).length = n := by
  simp only [resize, List.length_append, List.length_take, List.length_replicate]
  omega

/-! ### The codec -/

/-- `pg::jsonb`: the raw text of a JSON value. -/
structure Jsonb where
  rawString : List UInt8
  deriving DecidableEq, Repr

namespace Jsonb

/-- `size_of_impl<pg::jsonb>::apply(v)`. -/
def sizeOf (v : Jsonb) : Nat := v.rawString.length + 1

/-- `send_impl<pg::jsonb>::apply(out, oid_map, in)`: the version byte `1`, then the text. -/
def send (out : List UInt8) (v : Jsonb) : List UInt8 :=
  write (write out [1]) v.rawString

/-- `recv_impl<pg::jsonb>::apply(in, size, oid_map, out)`: the value read into `out`, and the
input left. -/
def recv (input : List UInt8) (size : Int) (out : Jsonb) : Except RecvError (Jsonb × List UInt8) :=
  if size < 1 then
    .error (.rangeError ("data size " ++ toString size ++ " is too small to read jsonb"))
  else do
    let (_, input) ← readByte input
    let (text, input) ← readString input (resize out.rawString (size - 1).toNat)
    pure (⟨text⟩, input)

/-! ### What `recv` accepts -/

/-- **What `recv` accepts.** `recv` reads `v` and leaves `rest` exactly when the size is
`sizeOf v` and the input is one byte, then the text of `v`, then `rest`. The first byte may hold
any value: `recv_impl` drops the version byte unread. The text `out` held before plays no part. -/
theorem recv_eq_ok_iff (input : List UInt8) (size : Int) (out v : Jsonb) (rest : List UInt8) :
    recv input size out = .ok (v, rest) ↔
      (v.sizeOf : Int) = size ∧ ∃ b, input = b :: (v.rawString ++ rest) := by
  by_cases hsize : size < 1
  · simp only [recv, hsize, ↓reduceIte, reduceCtorEq, false_iff, not_and, sizeOf]
    omega
  cases input with
  | nil => simp [recv, hsize, readByte, bind, Except.bind]
  | cons b input =>
    simp only [recv, hsize, ↓reduceIte, readByte, readString, length_resize, bind, Except.bind]
    split_ifs with hlen
    · simp only [pure, Except.pure, Except.ok.injEq, Prod.mk.injEq, List.cons.injEq,
        exists_eq_left', sizeOf]
      constructor
      · rintro ⟨rfl, rfl⟩
        refine ⟨?_, (List.take_append_drop _ _).symm⟩
        simp only [List.length_take]
        omega
      · rintro ⟨hv, rfl⟩
        have hlen' : (size - 1).toNat = v.rawString.length := by omega
        simp [hlen']
    · simp only [reduceCtorEq, false_iff, not_and, sizeOf, not_exists]
      rintro h b' ⟨-, rfl⟩
      simp at hlen
      omega

/-- **How `recv` fails.** With the range error, whose message names the size, exactly when the
size is below `1`; otherwise only by running out of input, exactly when the input is shorter than
the size. -/
theorem recv_eq_error_iff (input : List UInt8) (size : Int) (out : Jsonb) (e : RecvError) :
    recv input size out = .error e ↔
      size < 1 ∧ e = .rangeError ("data size " ++ toString size ++ " is too small to read jsonb") ∨
        1 ≤ size ∧ (input.length : Int) < size ∧ e = .endOfInput := by
  by_cases hsize : size < 1
  · simp only [recv, hsize, ↓reduceIte, Except.error.injEq, true_and, eq_comm]
    constructor
    · exact .inl
    · rintro (h | ⟨h, -⟩) <;> first | exact h | omega
  cases input with
  | nil =>
    have hshort : 1 ≤ size ∧ 0 < size := by omega
    simp [recv, hsize, readByte, bind, Except.bind, eq_comm, hshort]
  | cons b input =>
    simp only [recv, hsize, ↓reduceIte, readByte, readString, length_resize, bind, Except.bind]
    split_ifs with hlen
    · simp [pure, Except.pure]
      omega
    · have hshort : 1 ≤ size ∧ (input.length : Int) + 1 < size := by omega
      simp [eq_comm, hshort]

/-! ### Round trip -/

/-- **Round trip.** `send` appends `sizeOf v` bytes to the output, the version byte `1` and then
the text, for every text, the empty one and those holding zero bytes included; and `recv` with
the size `sizeOf v`, into a value holding any text, reads back `v` from these bytes followed by
any input, and leaves that input. -/
theorem recv_send (v prior : Jsonb) (out rest : List UInt8) :
    let bytes := [1] ++ v.rawString
    send out v = out ++ bytes ∧ bytes.length = v.sizeOf ∧
      recv (bytes ++ rest) v.sizeOf prior = .ok (v, rest) := by
  exact ⟨by simp [send, write], by simp [sizeOf, Nat.add_comm],
    (recv_eq_ok_iff _ _ _ _ _).mpr ⟨rfl, 1, rfl⟩⟩

end Jsonb

end Ozo.Pg
