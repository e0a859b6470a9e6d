import Mathlib

/-!
# One's-complement sums of 16-bit words

The Internet checksum adds 16-bit words with an end-around carry (`add`, `sum`). Over words below
`2 ^ 16` that sum is the total of the words taken modulo `2 ^ 16 - 1`, with `2 ^ 16 - 1` standing
for a nonzero multiple of it (`rep`, `sum_eq_rep`); folding the high half of a total onto its low
half keeps that value (`rep_fold`), and a nonzero total that is a multiple of `2 ^ 16 - 1` sums to
all ones (`rep_eq_max`).
-/

namespace OnesComplement

/-- One's-complement addition of 16-bit words: a carry out of bit 16 is added back in. -/
def add (a b : Nat) : Nat :=
  if a + b < 2 ^ 16 then a + b else a + b - (2 ^ 16 - 1)

/-- The one's-complement sum of a sequence of words, from zero. -/
def sum (words : List Nat) : Nat :=
  words.foldl add 0

/-- The one's-complement value of a total: its residue modulo `2 ^ 16 - 1`, where a nonzero
multiple of `2 ^ 16 - 1` is all ones and only `0` is `0`. -/
def rep (n : Nat) : Nat :=
  if n = 0 then 0 else (n - 1) % (2 ^ 16 - 1) + 1

theorem rep_lt (n : Nat) : rep n < 2 ^ 16 := by
  unfold rep
  split <;> omega

theorem rep_of_lt {n : Nat} (h : n < 2 ^ 16) : rep n = n := by
  unfold rep
  split <;> omega

theorem rep_mod (n : Nat) : rep n % (2 ^ 16 - 1) = n % (2 ^ 16 - 1) := by
  unfold rep
  split <;> omega

theorem rep_fold (n : Nat) : rep (n % 2 ^ 16 + n / 2 ^ 16) = rep n := by
  unfold rep
  split_ifs <;> omega

theorem add_rep (a : Nat) {w : Nat} (hw : w < 2 ^ 16) : add (rep a) w = rep (a + w) := by
  unfold add rep
  split_ifs <;> omega

theorem foldl_add_rep (a : Nat) {words : List Nat} (h : ∀ w ∈ words, w < 2 ^ 16) :
    words.foldl add (rep a) = rep (a + words.sum) := by
  induction words generalizing a with
  | nil => simp
  | cons w words ih =>
    rw [List.foldl_cons, add_rep a (h w List.mem_cons_self),
      ih (a + w) fun v hv => h v (List.mem_cons_of_mem w hv), List.sum_cons, Nat.add_assoc]

/-- Over 16-bit words the end-around-carry sum is the value of the plain total. -/
theorem sum_eq_rep {words : List Nat} (h : ∀ w ∈ words, w < 2 ^ 16) :
    sum words = rep words.sum := by
  have hzero : rep 0 = 0 := rfl
  rw [sum, ← hzero, foldl_add_rep 0 h, Nat.zero_add]

/-- A nonzero total that is a multiple of `2 ^ 16 - 1` is all ones. -/
theorem rep_eq_max {n : Nat} (hpos : 0 < n) (hmod : n % (2 ^ 16 - 1) = 0) :
    rep n = 2 ^ 16 - 1 := by
  unfold rep
  split <;> omega

theorem foldl_add_mod (m a : Nat) (words : List Nat) :
    words.foldl (fun s w => (s + w) % m) (a % m) = (a + words.sum) % m := by
  induction words generalizing a with
  | nil => simp
  | cons w words ih =>
    rw [List.foldl_cons, Nat.mod_add_mod, ih, List.sum_cons, Nat.add_assoc]

end OnesComplement
