import Mathlib.Tactic.SplitIfs
import Mathlib.Tactic.NormNum.Basic

/-!
# Integer arithmetic under overflow checks

A release build with `overflow-checks = true` panics where an integer operation leaves its type;
the `as` casts never panic and reinterpret the bits instead. Here a checked operation is an
`Option`, `none` for the panic, over the unbounded value the operation would have, and `toSigned`
is the cast of an unsigned value to the signed type of the same width. A counter incremented by
one at a time panics exactly when its final count leaves the type (`tally`).
-/

namespace Checked

/-- `a - b` on an unsigned type. -/
def sub (a b : Nat) : Option Nat :=
  if b ≤ a then some (a - b) else none

/-- `a + b` on an unsigned type of `w` bits. -/
def add (w : Nat) (a b : Nat) : Option Nat :=
  if a + b < 2 ^ w then some (a + b) else none

/-- `a * b` on an unsigned type of `w` bits. -/
def mul (w : Nat) (a b : Nat) : Option Nat :=
  if a * b < 2 ^ w then some (a * b) else none

/-- `a - b` on a signed type of `w + 1` bits. -/
def subSigned (w : Nat) (a b : Int) : Option Int :=
  if -2 ^ w ≤ a - b ∧ a - b < 2 ^ w then some (a - b) else none

/-- `x as iN` for `x` of the unsigned type of `w + 1` bits: its bits in two's complement. -/
def toSigned (w : Nat) (x : Nat) : Int :=
  if x < 2 ^ w then x else x - 2 ^ (w + 1)

/-- `n` increments by one of an unsigned counter of `w` bits that starts at zero. -/
def tally (w : Nat) (n : Nat) : Option Nat :=
  if n < 2 ^ w then some n else none

/-- `x.abs()` on a signed type of `w + 1` bits, whose least value has no absolute value. -/
def absSigned (w : Nat) (x : Int) : Option Int :=
  if x.natAbs < 2 ^ w then some (x.natAbs : Int) else none

@[simp]
theorem sub_of_le {a b : Nat} (h : b ≤ a) : sub a b = some (a - b) := if_pos h

theorem sub_eq_none_iff {a b : Nat} : sub a b = none ↔ a < b := by
  unfold sub
  split_ifs with h <;> simp <;> omega

theorem add_eq_none_iff {w a b : Nat} : add w a b = none ↔ 2 ^ w ≤ a + b := by
  unfold add
  split_ifs with h <;> simp <;> omega

@[simp]
theorem add_of_lt {w a b : Nat} (h : a + b < 2 ^ w) : add w a b = some (a + b) := if_pos h

@[simp]
theorem mul_of_lt {w a b : Nat} (h : a * b < 2 ^ w) : mul w a b = some (a * b) := if_pos h

theorem mul_eq_none_iff {w a b : Nat} : mul w a b = none ↔ 2 ^ w ≤ a * b := by
  unfold mul
  split_ifs with h <;> simp <;> omega

theorem subSigned_eq_none_iff {w : Nat} {a b : Int} :
    subSigned w a b = none ↔ a - b < -2 ^ w ∨ 2 ^ w ≤ a - b := by
  unfold subSigned
  split_ifs with h <;> simp <;> omega

theorem subSigned_of_bounds {w : Nat} {a b : Int} (hlow : -2 ^ w ≤ a - b) (hhigh : a - b < 2 ^ w) :
    subSigned w a b = some (a - b) :=
  if_pos ⟨hlow, hhigh⟩

@[simp]
theorem toSigned_of_lt {w x : Nat} (h : x < 2 ^ w) : toSigned w x = x := if_pos h

theorem toSigned_of_le {w x : Nat} (h : 2 ^ w ≤ x) : toSigned w x = x - 2 ^ (w + 1) :=
  if_neg (Nat.not_lt.mpr h)

/-- The difference of two casts of values below `2 ^ w` fits the signed type. -/
theorem subSigned_toSigned_of_lt {w x y : Nat} (hx : x < 2 ^ w) (hy : y < 2 ^ w) :
    subSigned w (toSigned w x) (toSigned w y) = some ((x : Int) - y) := by
  rw [toSigned_of_lt hx, toSigned_of_lt hy]
  have hx' : (x : Int) < 2 ^ w := by exact_mod_cast hx
  have hy' : (y : Int) < 2 ^ w := by exact_mod_cast hy
  apply subSigned_of_bounds <;> omega

@[simp]
theorem tally_of_lt {w n : Nat} (h : n < 2 ^ w) : tally w n = some n := if_pos h

theorem absSigned_of_lt {w : Nat} {x : Int} (h : x.natAbs < 2 ^ w) :
    absSigned w x = some (x.natAbs : Int) :=
  if_pos h

/-! ### Loops of checked steps -/

theorem mapM_eq_some_of_forall {α β : Type} {f : α → Option β} {g : α → β} :
    ∀ {xs : List α}, (∀ x ∈ xs, f x = some (g x)) → xs.mapM f = some (xs.map g)
  | [], _ => rfl
  | x :: xs, h => by
    have hrest := mapM_eq_some_of_forall fun y hy => h y (List.mem_cons_of_mem _ hy)
    rw [List.mapM_cons, h x List.mem_cons_self, hrest]
    rfl

theorem forall₂_of_mapM_eq_some {α β : Type} {f : α → Option β} :
    ∀ {xs : List α} {ys : List β}, xs.mapM f = some ys → List.Forall₂ (fun x y => f x = some y) xs ys
  | [], ys, h => by
    cases h
    exact List.Forall₂.nil
  | x :: xs, ys, h => by
    rw [List.mapM_cons] at h
    obtain ⟨y, hy, h⟩ := Option.bind_eq_some_iff.mp h
    obtain ⟨ys', hys', h⟩ := Option.bind_eq_some_iff.mp h
    cases h
    exact List.Forall₂.cons hy (forall₂_of_mapM_eq_some hys')

theorem mapM_eq_none_of_mem {α β : Type} {f : α → Option β} {x : α} (hx : f x = none) :
    ∀ {xs : List α}, x ∈ xs → xs.mapM f = none
  | [], hmem => absurd hmem List.not_mem_nil
  | y :: xs, hmem => by
    rw [List.mapM_cons]
    rcases List.mem_cons.mp hmem with rfl | hmem
    · rw [hx]
      rfl
    · cases f y with
      | none => rfl
      | some b =>
        rw [mapM_eq_none_of_mem hx hmem]
        rfl

end Checked
