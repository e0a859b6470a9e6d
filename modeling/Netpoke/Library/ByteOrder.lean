import Mathlib

/-!
# Byte orders

Fixed-width unsigned integers as bytes, least significant first (`toLE`, `to_le_bytes`) or most
significant first (`toBE`, `to_be_bytes`), and the integers bytes are read back as (`ofLE`,
`ofBE`: `from_le_bytes`, `from_be_bytes`). An encoding keeps its value modulo `256 ^ width`
(`ofLE_toLE`, `ofBE_toBE`), so a value that fits its width is read back exactly, and every list
of bytes is the encoding of the value it is read as (`toLE_ofLE`).

A reader takes a fixed number of bytes off the front of a stream and leaves the rest
(`takeExact`, the `read_exact` of a buffered stream, and the `Reader` monad built on it); reading
an encoding back gives the value and the bytes after it, whatever they are
(`readLE_toLE_append`, `Reader.run_le_toLE_append`).
-/

namespace ByteOrder

/-- The `width` bytes of `n`, least significant first. -/
def toLE (width n : Nat) : List UInt8 :=
  (List.range width).map fun i => UInt8.ofNat (n / 256 ^ i)

/-- The `width` bytes of `n`, most significant first. -/
def toBE (width n : Nat) : List UInt8 :=
  (List.range width).reverse.map fun i => UInt8.ofNat (n / 256 ^ i)

/-- The integer of bytes read least significant first. -/
def ofLE : List UInt8 → Nat
  | [] => 0
  | b :: bytes => b.toNat + 256 * ofLE bytes

/-- The integer of bytes read most significant first. -/
def ofBE (bytes : List UInt8) : Nat :=
  ofLE bytes.reverse

@[simp] theorem length_toLE (width n : Nat) : (toLE width n).length = width := by
  simp [toLE]

@[simp] theorem length_toBE (width n : Nat) : (toBE width n).length = width := by
  simp [toBE]

theorem toBE_eq_reverse (width n : Nat) : toBE width n = (toLE width n).reverse := by
  simp [toBE, toLE, List.map_reverse]

@[simp] theorem ofLE_nil : ofLE [] = 0 := rfl

@[simp] theorem ofLE_cons (b : UInt8) (bytes : List UInt8) :
    ofLE (b :: bytes) = b.toNat + 256 * ofLE bytes := rfl

theorem toLE_succ (width n : Nat) :
    toLE (width + 1) n = UInt8.ofNat n :: toLE width (n / 256) := by
  simp only [toLE, List.range_succ_eq_map, List.map_cons, List.map_map, Nat.pow_zero,
    Nat.div_one, List.cons.injEq, true_and]
  apply List.map_congr_left
  intro i _
  simp only [Function.comp_apply, Nat.pow_succ', Nat.div_div_eq_div_mul]

theorem ofLE_toLE (width n : Nat) : ofLE (toLE width n) = n % 256 ^ width := by
  induction width generalizing n with
  | zero => simp [toLE, Nat.mod_one]
  | succ width ih =>
    rw [toLE_succ, ofLE_cons, ih, Nat.pow_succ', Nat.mod_mul]
    simp

theorem ofBE_toBE (width n : Nat) : ofBE (toBE width n) = n % 256 ^ width := by
  rw [ofBE, toBE_eq_reverse, List.reverse_reverse, ofLE_toLE]

theorem toLE_ofLE (bytes : List UInt8) : toLE bytes.length (ofLE bytes) = bytes := by
  induction bytes with
  | nil => rfl
  | cons b bytes ih =>
    have hb : b.toNat < 256 := b.toNat_lt
    have hlow : UInt8.ofNat (ofLE (b :: bytes)) = b := by
      apply UInt8.toNat_inj.mp
      rw [UInt8.toNat_ofNat', ofLE_cons]
      omega
    have hhigh : ofLE (b :: bytes) / 256 = ofLE bytes := by
      rw [ofLE_cons]
      omega
    rw [List.length_cons, toLE_succ, hlow, hhigh, ih]

theorem toBE_ofBE (bytes : List UInt8) : toBE bytes.length (ofBE bytes) = bytes := by
  rw [toBE_eq_reverse, ofBE, ← List.length_reverse, toLE_ofLE, List.reverse_reverse]

theorem toLE_mod (width n : Nat) : toLE width (n % 256 ^ width) = toLE width n := by
  have h := toLE_ofLE (toLE width n)
  rwa [length_toLE, ofLE_toLE] at h

theorem toBE_mod (width n : Nat) : toBE width (n % 256 ^ width) = toBE width n := by
  rw [toBE_eq_reverse, toBE_eq_reverse, toLE_mod]

/-! ### Reading from a stream -/

/-- `read_exact` of `n` bytes: the bytes and what follows them, or `none` at the end of the
stream. -/
def takeExact (n : Nat) (bytes : List UInt8) : Option (List UInt8 × List UInt8) :=
  if n ≤ bytes.length then some (bytes.take n, bytes.drop n) else none

/-- A little-endian integer of `width` bytes off the front of a stream. -/
def readLE (width : Nat) (bytes : List UInt8) : Option (Nat × List UInt8) :=
  (takeExact width bytes).map fun p => (ofLE p.1, p.2)

theorem takeExact_append (front rest : List UInt8) :
    takeExact front.length (front ++ rest) = some (front, rest) := by
  simp [takeExact]

theorem takeExact_eq_some_iff {n : Nat} {bytes front rest : List UInt8} :
    takeExact n bytes = some (front, rest) ↔ front.length = n ∧ bytes = front ++ rest := by
  unfold takeExact
  constructor
  · intro h
    split_ifs at h with hn
    cases h
    exact ⟨by simp; omega, (List.take_append_drop n bytes).symm⟩
  · rintro ⟨rfl, rfl⟩
    simp

theorem readLE_toLE_append (width n : Nat) (rest : List UInt8) :
    readLE width (toLE width n ++ rest) = some (n % 256 ^ width, rest) := by
  have h := takeExact_append (toLE width n) rest
  rw [length_toLE] at h
  simp [readLE, h, ofLE_toLE]

/-! ### Readers -/

/-- Reading values off the front of a stream of bytes; `none` where the stream runs out. -/
abbrev Reader := StateT (List UInt8) Option

namespace Reader

def take (n : Nat) : Reader (List UInt8) := fun bytes => takeExact n bytes

def le (width : Nat) : Reader Nat := fun bytes => readLE width bytes

theorem run_take_append (front rest : List UInt8) :
    (take front.length).run (front ++ rest) = some (front, rest) :=
  takeExact_append front rest

theorem run_le_toLE_append (width n : Nat) (rest : List UInt8) :
    (le width).run (toLE width n ++ rest) = some (n % 256 ^ width, rest) :=
  readLE_toLE_append width n rest

theorem run_bind_of_run {α β : Type} {x : Reader α} {bytes rest : List UInt8} {a : α}
    (h : x.run bytes = some (a, rest)) (f : α → Reader β) :
    (x >>= f).run bytes = (f a).run rest := by
  rw [StateT.run_bind, h]
  rfl

theorem run_le_bind {α : Type} (width n : Nat) (rest : List UInt8) (f : Nat → Reader α) :
    (le width >>= f).run (toLE width n ++ rest) = (f (n % 256 ^ width)).run rest :=
  run_bind_of_run (run_le_toLE_append width n rest) f

theorem run_take_bind {α : Type} (front rest : List UInt8) (f : List UInt8 → Reader α) :
    (take front.length >>= f).run (front ++ rest) = (f front).run rest :=
  run_bind_of_run (run_take_append front rest) f

end Reader

end ByteOrder
