import Mathlib.Algebra.Order.Field.Basic
import Mathlib.Data.List.Sort
import Mathlib.Data.List.Pairwise

/-!
# Floating-point computations over a chosen arithmetic

A computation on `f64` is written against the operations it performs (`Arith`), so that one
definition serves both for IEEE doubles (`floatArith`, Lean's `Float`) and for exact arithmetic in
an ordered field (`fieldArith`). Two computations written as the same definition agree at every
arithmetic; the formulas a computation is meant to compute are proved in exact arithmetic.

`sort` is the sort by a comparison, Lean's stable merge sort; in an ordered field it returns a
sorted permutation of its input (`perm_sort`, `pairwise_sort`), and the entries of a sorted list
rise with their index (`getElem_le_getElem_of_pairwise`).
-/

/-- The operations on `f64` a computation performs, over the carrier `F`. -/
structure Arith (F : Type) where
  ofInt : Int → F
  add : F → F → F
  sub : F → F → F
  mul : F → F → F
  div : F → F → F
  abs : F → F
  max : F → F → F
  sqrt : F → F
  lt : F → F → Bool

namespace Arith

variable {F : Type} (A : Arith F)

/-- `n as f64` for an unsigned `n`. -/
def ofNat (n : Nat) : F := A.ofInt n

/-- `iter().sum::<f64>()`, from zero. -/
def sum (xs : List F) : F := xs.foldl A.add (A.ofNat 0)

/-- `sort_by(|a, b| a.partial_cmp(b).unwrap_or(Equal))`, a stable sort. -/
def sort (xs : List F) : List F := xs.mergeSort fun a b => !A.lt b a

theorem perm_sort (xs : List F) : (A.sort xs).Perm xs :=
  List.mergeSort_perm _ _

theorem length_sort (xs : List F) : (A.sort xs).length = xs.length :=
  (A.perm_sort xs).length_eq

end Arith

/-- IEEE doubles. `f64::max` returns the other argument when one is NaN. -/
def floatArith : Arith Float where
  ofInt := Float.ofInt
  add := (· + ·)
  sub := (· - ·)
  mul := (· * ·)
  div := (· / ·)
  abs := Float.abs
  max := fun a b => if a.isNaN then b else if b.isNaN then a else if a < b then b else a
  sqrt := Float.sqrt
  lt := fun a b => decide (a < b)

section Field

variable (F : Type) [Field F] [LinearOrder F]

/-- Exact arithmetic in a linearly ordered field with a square root. -/
def fieldArith (sqrt : F → F) : Arith F where
  ofInt := Int.cast
  add := (· + ·)
  sub := (· - ·)
  mul := (· * ·)
  div := (· / ·)
  abs := fun x => |x|
  max := max
  sqrt := sqrt
  lt := fun a b => decide (a < b)

variable {F} (sqrt : F → F)

@[simp] theorem fieldArith_ofInt (n : Int) : (fieldArith F sqrt).ofInt n = n := rfl
@[simp] theorem fieldArith_ofNat (n : Nat) : (fieldArith F sqrt).ofNat n = n := by
  simp [Arith.ofNat]
@[simp] theorem fieldArith_add (a b : F) : (fieldArith F sqrt).add a b = a + b := rfl
@[simp] theorem fieldArith_sub (a b : F) : (fieldArith F sqrt).sub a b = a - b := rfl
@[simp] theorem fieldArith_mul (a b : F) : (fieldArith F sqrt).mul a b = a * b := rfl
@[simp] theorem fieldArith_div (a b : F) : (fieldArith F sqrt).div a b = a / b := rfl
@[simp] theorem fieldArith_abs (a : F) : (fieldArith F sqrt).abs a = |a| := rfl
@[simp] theorem fieldArith_max (a b : F) : (fieldArith F sqrt).max a b = max a b := rfl
@[simp] theorem fieldArith_lt (a b : F) : (fieldArith F sqrt).lt a b = decide (a < b) := rfl

theorem sum_fieldArith (xs : List F) : (fieldArith F sqrt).sum xs = xs.sum := by
  unfold Arith.sum
  rw [List.sum_eq_foldl]
  simp only [fieldArith_ofNat, Nat.cast_zero]
  rfl

theorem pairwise_sort (xs : List F) : ((fieldArith F sqrt).sort xs).Pairwise (· ≤ ·) := by
  have hsorted := @List.pairwise_mergeSort F (fun a b : F => !(fieldArith F sqrt).lt b a)
    (fun a b c hab hbc => by simp at hab hbc ⊢; exact hab.trans hbc)
    (fun a b => by simpa using le_total a b) xs
  exact hsorted.imp fun h => by simpa using h

end Field

theorem getElem_le_getElem_of_pairwise {F : Type} [LinearOrder F] {v : List F}
    (hv : v.Pairwise (· ≤ ·)) {i j : Nat} (hij : i ≤ j) (hi : i < v.length) (hj : j < v.length) :
    v[i] ≤ v[j] :=
  hv.rel_get_of_le (a := ⟨i, hi⟩) (b := ⟨j, hj⟩) hij

/-! ### Unsigned integers as doubles -/

/-- The number `n as f64` stands for, for an unsigned `n`, at precision `p` (`53` for a double):
the nearest number of at most `p` significant bits, ties to the even one. -/
def roundSig (p n : Nat) : Nat :=
  let e := n.log2 + 1 - p
  let q := n / 2 ^ e
  if 2 ^ e < 2 * (n % 2 ^ e) ∨ (2 * (n % 2 ^ e) = 2 ^ e ∧ q % 2 = 1) then (q + 1) * 2 ^ e
  else q * 2 ^ e
