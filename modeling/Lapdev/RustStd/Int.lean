import Mathlib.Algebra.BigOperators.Group.List.Basic
import Mathlib.Algebra.GroupWithZero.Nat
import Mathlib.Algebra.Order.BigOperators.Group.List

/-!
# Rust's machine integers

A value of an integer type is an `Int` or a `Nat`; `asI32` and `asUsize` are the casts `as i32` and
`as usize`, which also are what a release build does to a result that is too large. Where it is
asked whether an operation on `usize` overflows, it is one of `Checked`, an error in that case.
-/

namespace RustStd

/-- `as i32`. -/
def asI32 (x : Int) : Int := x.bmod (2 ^ 32)

/-- `as usize`. -/
def asUsize (x : Int) : Nat := (x % 2 ^ 64).toNat

/-- `Duration::num_seconds` of a duration in microseconds. -/
def numSeconds (d : Int) : Int := d.tdiv 1000000

theorem asI32_eq_self {x : Int} (h : 0 ≤ x) (hx : x < 2 ^ 31) : asI32 x = x := by
  rw [asI32, Int.bmod_eq_emod]
  split <;> omega

theorem asI32_lt (x : Int) : asI32 x < 2 ^ 31 := by
  have := Int.bmod_lt (x := x) (m := 2 ^ 32) (by decide)
  rw [asI32]
  omega

/-- What is cut off a number that is not negative makes it smaller. -/
theorem asI32_le {x : Int} (h : 0 ≤ x) : asI32 x ≤ x := by
  rw [asI32, Int.bmod_eq_emod]
  split <;> omega

/-- A number that is not negative survives the cast exactly if it has a place in 32 bits. -/
theorem asI32_eq_self_iff {x : Int} (h : 0 ≤ x) : asI32 x = x ↔ x < 2 ^ 31 :=
  ⟨fun hx => hx ▸ asI32_lt x, asI32_eq_self h⟩

/-- A product of casts is cast as a whole. -/
@[simp] theorem asI32_mul_asI32 (x y : Int) : asI32 (x * asI32 y) = asI32 (x * y) :=
  Int.mul_bmod_bmod

theorem asUsize_eq_toNat {x : Int} (h : 0 ≤ x) (hx : x < 2 ^ 64) : asUsize x = x.toNat := by
  rw [asUsize, Int.emod_eq_of_lt h hx]

@[simp] theorem asUsize_natCast (n : Nat) : asUsize n = n % 2 ^ 64 := by
  rw [asUsize]
  omega

/-- The whole seconds of a duration, none if it is negative. -/
theorem numSeconds_max (d : Int) : max (numSeconds d) 0 = (d / 1000000).toNat := by
  rw [numSeconds]
  rcases Int.le_total 0 d with h | h
  · rw [Int.tdiv_eq_ediv_of_nonneg h]
    omega
  · have hneg : 0 ≤ (-d).tdiv 1000000 := Int.tdiv_nonneg (by omega) (by decide)
    rw [Int.neg_tdiv] at hneg
    omega

/-- A sum that is cut off after each addition is cut off once. -/
theorem foldl_add_mod (m : Nat) (l : List Nat) (n : Nat) :
    l.foldl (fun total x => (total + x) % m) n % m = (n + l.sum) % m := by
  induction l generalizing n with
  | nil => rfl
  | cons x l ih => rw [List.foldl_cons, ih, Nat.mod_add_mod, List.sum_cons, Nat.add_assoc]

/-- What goes wrong in an operation on integers. -/
inductive ArithmeticError
  | overflow
  | divisionByZero
  deriving DecidableEq, Repr

namespace Checked

/-- `+` on `usize`. -/
def add (m n : Nat) : Except ArithmeticError Nat :=
  if m + n < 2 ^ 64 then .ok (m + n) else .error .overflow

/-- `*` on `usize`. -/
def mul (m n : Nat) : Except ArithmeticError Nat :=
  if m * n < 2 ^ 64 then .ok (m * n) else .error .overflow

end Checked

end RustStd
