import Mathlib.Algebra.Group.Nat.Defs
import Mathlib.Data.List.Basic

/-!
# Reading and writing bytes

Slices of a byte string, and numbers in big-endian bytes. A read outside of the bytes is a panic,
`none` of an `Indexed` value; `slice_take` and `readU16_take` say that a read inside of a prefix is
a read of the prefix.
-/

namespace RustStd

/-- What is read off bytes by index; `none` is an index out of bounds, a panic. -/
abbrev Indexed (α : Type) := Option α

namespace Bytes

/-- `bytes[start..stop]`. -/
def slice (bytes : List UInt8) (start stop : Nat) : Indexed (List UInt8) :=
  if start ≤ stop ∧ stop ≤ bytes.length then some ((bytes.drop start).take (stop - start)) else none

/-- `from_be_bytes`. -/
def fromBe (bytes : List UInt8) : Nat := bytes.foldl (fun n b => n * 256 + b.toNat) 0

/-- `to_be_bytes` of a number of some bytes. -/
def toBe : (size : Nat) → (n : Nat) → List UInt8
  | 0, _ => []
  | size + 1, n => toBe size (n / 256) ++ [UInt8.ofNat n]

/-- `u16::from_be_bytes([bytes[i], bytes[i + 1]])`. -/
def readU16 (bytes : List UInt8) (i : Nat) : Indexed UInt16 := do
  let high ← bytes[i]?
  let low ← bytes[i + 1]?
  pure (UInt16.ofNat (fromBe [high, low]))

/-- Bytes are combined with those of a mask by exclusive or. -/
def xor (bytes mask : List UInt8) : List UInt8 := List.zipWith (· ^^^ ·) bytes mask

/-! ## Numbers -/

@[simp] theorem length_toBe (size n : Nat) : (toBe size n).length = size := by
  induction size generalizing n with
  | zero => rfl
  | succ size ih => rw [toBe, List.length_append, ih, List.length_singleton]

/-- A number is read back from its bytes. -/
theorem fromBe_toBe (size n : Nat) : fromBe (toBe size n) = n % 256 ^ size := by
  induction size generalizing n with
  | zero => rw [Nat.pow_zero, Nat.mod_one]; rfl
  | succ size ih =>
    have hlast : fromBe (toBe size (n / 256) ++ [UInt8.ofNat n]) =
        fromBe (toBe size (n / 256)) * 256 + (UInt8.ofNat n).toNat := List.foldl_append
    have hsplit : n % 256 ^ (size + 1) = n % 256 + 256 * (n / 256 % 256 ^ size) := by
      rw [Nat.pow_succ', Nat.mod_mul]
    rw [toBe, hlast, ih, hsplit, UInt8.toNat_ofNat', Nat.mul_comm, Nat.add_comm]

theorem ofNat_fromBe_toBe (n : UInt16) : UInt16.ofNat (fromBe (toBe 2 n.toNat)) = n := by
  have hlt : n.toNat < 256 ^ 2 := n.toNat_lt
  rw [fromBe_toBe, Nat.mod_eq_of_lt hlt, UInt16.ofNat_toNat]

/-! ## Reads -/

section
variable {bytes : List UInt8} {i start stop n : Nat}

/-- A read inside of the bytes succeeds. -/
theorem exists_readU16 (bytes : List UInt8) (i : Nat) (h : i + 2 ≤ bytes.length) : ∃ value, readU16 bytes i = some value := by
  have hhigh : bytes[i]? = some bytes[i] := List.getElem?_eq_getElem (by omega)
  have hlow : bytes[i + 1]? = some bytes[i + 1] := List.getElem?_eq_getElem (by omega)
  exact ⟨_, by rw [readU16, hhigh, hlow]; rfl⟩

theorem readU16_take (h : i + 2 ≤ n) : readU16 (bytes.take n) i = readU16 bytes i := by
  rw [readU16, readU16, List.getElem?_take_of_lt (by omega), List.getElem?_take_of_lt (by omega)]

theorem slice_eq (hstart : start ≤ stop) (hstop : stop ≤ bytes.length) :
    slice bytes start stop = some ((bytes.drop start).take (stop - start)) :=
  if_pos ⟨hstart, hstop⟩

theorem slice_take (hstart : start ≤ stop) (hstop : stop ≤ n) (hn : n ≤ bytes.length) :
    slice (bytes.take n) start stop = slice bytes start stop := by
  have hlength : (bytes.take n).length = n := List.length_take_of_le hn
  rw [slice_eq hstart (by omega), slice_eq hstart (by omega), List.drop_take, List.take_take,
    Nat.min_eq_left (by omega)]

end

section
variable {front bytes back : List UInt8} {start stop : Nat}

/-- A part of some bytes is read. -/
theorem slice_append (hstart : front.length = start) (hstop : front.length + bytes.length = stop) :
    slice (front ++ (bytes ++ back)) start stop = some bytes := by
  have hlength : stop ≤ (front ++ (bytes ++ back)).length := by
    simp only [List.length_append]
    omega
  rw [slice_eq (by omega) hlength, ← hstart, List.drop_left, List.take_left']
  omega

/-- A number among some bytes is read. -/
theorem readU16_append (hstart : front.length = start) (n : UInt16) :
    readU16 (front ++ (toBe 2 n.toNat ++ back)) start = some n := by
  have hhigh : (front ++ (toBe 2 n.toNat ++ back))[start]? = some (UInt8.ofNat (n.toNat / 256)) := by
    rw [List.getElem?_append_right (by omega), hstart, Nat.sub_self]
    rfl
  have hlow : (front ++ (toBe 2 n.toNat ++ back))[start + 1]? = some (UInt8.ofNat n.toNat) := by
    rw [List.getElem?_append_right (by omega), hstart, Nat.add_sub_cancel_left]
    rfl
  rw [readU16, hhigh, hlow]
  exact congrArg some (ofNat_fromBe_toBe n)

end

/-! ## Exclusive or -/

theorem length_xor {bytes mask : List UInt8} (h : bytes.length ≤ mask.length) :
    (xor bytes mask).length = bytes.length := by
  rw [xor, List.length_zipWith, Nat.min_eq_left h]

/-- A mask that is used twice is gone. -/
theorem xor_xor {bytes mask : List UInt8} (h : bytes.length ≤ mask.length) :
    xor (xor bytes mask) mask = bytes := by
  induction bytes generalizing mask with
  | nil => rfl
  | cons b bytes ih =>
    cases mask with
    | nil => exact absurd h (Nat.not_succ_le_zero _)
    | cons m mask =>
      have hbyte : b ^^^ m ^^^ m = b := by rw [UInt8.xor_assoc, UInt8.xor_self, UInt8.xor_zero]
      exact congrArg₂ List.cons hbyte (ih (Nat.le_of_succ_le_succ h))

end Bytes

end RustStd
