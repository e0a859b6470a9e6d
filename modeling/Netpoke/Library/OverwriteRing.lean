import Mathlib

/-!
# Overwriting ring buffers

A buffer of at most `capacity` items kept in a vector and a write position. While the vector is
shorter than the capacity a new item is appended; once it is full, the item at the write
position, which is the oldest, is overwritten. Either way the write position then moves on
modulo the capacity. Read from the write position round to it again, the vector holds the last
`capacity` items pushed, oldest first (`push_of_valid`).

A push fails, as the index or the remainder does, when the write position is outside a full
vector or the capacity is zero.
-/

namespace OverwriteRing

variable {α : Type}

def lastN (n : Nat) (l : List α) : List α :=
  l.drop (l.length - n)

inductive Event (α : Type)
  | push (x : α)
  | clear
  deriving DecidableEq, Repr

def Event.map {β : Type} (f : α → β) : Event α → Event β
  | .push x => .push (f x)
  | .clear => .clear

/-- The items pushed after the last clear, following those of `acc`. -/
def sinceClear (acc : List α) : List (Event α) → List α
  | [] => acc
  | .push x :: events => sinceClear (acc ++ [x]) events
  | .clear :: events => sinceClear [] events

def pushCount : List (Event α) → Nat
  | [] => 0
  | .push _ :: events => pushCount events + 1
  | .clear :: events => pushCount events

/-- The vector and the write position of a ring buffer of fixed capacity. -/
structure Buffer (α : Type) where
  capacity : Nat
  items : List α
  writePos : Nat
  deriving DecidableEq, Repr

namespace Buffer

def empty (capacity : Nat) : Buffer α :=
  ⟨capacity, [], 0⟩

/-- Add an item, overwriting the oldest one once the buffer is full. -/
def push (b : Buffer α) (x : α) : Option (Buffer α) :=
  if b.items.length < b.capacity then
    some ⟨b.capacity, b.items ++ [x], (b.writePos + 1) % b.capacity⟩
  else if b.writePos < b.items.length then
    if b.capacity = 0 then none
    else some ⟨b.capacity, b.items.set b.writePos x, (b.writePos + 1) % b.capacity⟩
  else none

/-- The items oldest first: from the write position on, then those before it. -/
def toList (b : Buffer α) : List α :=
  if b.items.length < b.capacity then b.items
  else b.items.drop b.writePos ++ b.items.take b.writePos

def clear (b : Buffer α) : Buffer α :=
  ⟨b.capacity, [], 0⟩

/-- What every buffer built by `empty`, `push` and `clear` satisfies for a positive capacity:
the vector is at most full, and until it is full the write position is its end. -/
structure Valid (b : Buffer α) : Prop where
  capacity_pos : 0 < b.capacity
  length_le : b.items.length ≤ b.capacity
  writePos_lt : b.writePos < b.capacity
  writePos_eq : b.items.length < b.capacity → b.writePos = b.items.length

theorem valid_empty {capacity : Nat} (h : 0 < capacity) : (empty capacity : Buffer α).Valid :=
  ⟨h, Nat.zero_le _, h, fun _ => rfl⟩

theorem Valid.clear {b : Buffer α} (h : b.Valid) : b.clear.Valid :=
  valid_empty h.capacity_pos

@[simp] theorem toList_empty (capacity : Nat) (h : 0 < capacity) :
    (empty capacity : Buffer α).toList = [] := by
  simp [empty, toList, h]

@[simp] theorem toList_clear (b : Buffer α) (h : 0 < b.capacity) : b.clear.toList = [] := by
  simp [clear, toList, h]

theorem length_toList (b : Buffer α) (h : b.Valid) : b.toList.length = b.items.length := by
  unfold toList
  split
  · rfl
  · have hwp := h.writePos_lt
    have hlen := h.length_le
    simp only [List.length_append, List.length_drop, List.length_take]
    omega

theorem lastN_of_length_le {n : Nat} {l : List α} (h : l.length ≤ n) : lastN n l = l := by
  unfold lastN
  rw [Nat.sub_eq_zero_of_le h, List.drop_zero]

theorem lastN_lastN_append (n : Nat) (l m : List α) :
    lastN n (lastN n l ++ m) = lastN n (l ++ m) := by
  unfold lastN
  simp only [List.length_append, List.length_drop, List.drop_append, List.drop_drop]
  have hl : l.length - n + (l.length - (l.length - n) + m.length - n) =
      l.length + m.length - n := by omega
  have hm : l.length - (l.length - n) + m.length - n - (l.length - (l.length - n)) =
      l.length + m.length - n - l.length := by omega
  rw [hl, hm]

/-- A full buffer after the item at the write position is overwritten: the items after the
write position, those before it, and the new one. -/
theorem toList_set_of_full (b : Buffer α) (x : α) (h : b.Valid)
    (hfull : b.items.length = b.capacity) :
    toList ⟨b.capacity, b.items.set b.writePos x, (b.writePos + 1) % b.capacity⟩ =
      b.items.drop (b.writePos + 1) ++ b.items.take b.writePos ++ [x] := by
  have hwp : b.writePos < b.items.length := hfull ▸ h.writePos_lt
  have hset : b.items.set b.writePos x =
      b.items.take b.writePos ++ x :: b.items.drop (b.writePos + 1) := by
    rw [List.set_eq_take_append_cons_drop, if_pos hwp]
  unfold toList
  rw [if_neg (by simp; omega)]
  by_cases hlast : b.writePos + 1 < b.capacity
  · have htake : (b.items.set b.writePos x).take (b.writePos + 1) =
        b.items.take b.writePos ++ [x] := by
      rw [hset, List.take_append, List.take_take, List.length_take,
        Nat.min_eq_left hwp.le, Nat.min_eq_right (Nat.le_succ _), Nat.add_sub_cancel_left]
      rfl
    rw [Nat.mod_eq_of_lt hlast, List.drop_set_of_lt (Nat.lt_succ_self _), htake,
      List.append_assoc]
  · have hwrap : b.writePos + 1 = b.capacity := by have := h.writePos_lt; omega
    have hnil : b.items.drop (b.writePos + 1) = [] := List.drop_eq_nil_of_le (by omega)
    have hmod : (b.writePos + 1) % b.capacity = 0 := by rw [hwrap, Nat.mod_self]
    rw [hmod, List.drop_zero, List.take_zero, List.append_nil, hset, hnil]
    rfl

/-- One push onto a valid buffer succeeds, keeps it valid and appends to the last
`capacity` items. -/
theorem push_of_valid (b : Buffer α) (x : α) (h : b.Valid) :
    ∃ b', b.push x = some b' ∧ b'.Valid ∧ b'.capacity = b.capacity ∧
      b'.toList = lastN b.capacity (b.toList ++ [x]) := by
  have hcap := h.capacity_pos
  by_cases hfull : b.items.length < b.capacity
  · have hwp := h.writePos_eq hfull
    refine ⟨⟨b.capacity, b.items ++ [x], (b.writePos + 1) % b.capacity⟩, if_pos hfull,
      ⟨hcap, by show (b.items ++ [x]).length ≤ b.capacity; simp; omega,
        Nat.mod_lt _ hcap, ?_⟩, rfl, ?_⟩
    · intro hroom
      simp only [List.length_append, List.length_singleton] at hroom ⊢
      rw [hwp, Nat.mod_eq_of_lt hroom]
    · have hlen : (b.items ++ [x]).length ≤ b.capacity := by simp; omega
      have hold : b.toList = b.items := if_pos hfull
      rw [hold, lastN_of_length_le hlen]
      unfold toList
      split
      · rfl
      · rename_i hnot
        have hwrap : b.writePos + 1 = b.capacity := by
          change ¬(b.items ++ [x]).length < b.capacity at hnot
          simp only [List.length_append, List.length_singleton] at hlen hnot
          omega
        simp [hwrap]
  · have hlen : b.items.length = b.capacity := by have := h.length_le; omega
    have hwp : b.writePos < b.items.length := hlen ▸ h.writePos_lt
    have hpush : b.push x =
        some ⟨b.capacity, b.items.set b.writePos x, (b.writePos + 1) % b.capacity⟩ := by
      unfold push
      rw [if_neg hfull, if_pos hwp, if_neg (by omega)]
    refine ⟨⟨b.capacity, b.items.set b.writePos x, (b.writePos + 1) % b.capacity⟩, hpush,
      ⟨hcap, by simp only [List.length_set]; omega, Nat.mod_lt _ hcap, fun hroom => ?_⟩, rfl, ?_⟩
    · simp only [List.length_set] at hroom
      omega
    · rw [toList_set_of_full b x h hlen]
      have hold : b.toList = b.items.drop b.writePos ++ b.items.take b.writePos := if_neg hfull
      have hdrop : b.items.drop b.writePos =
          b.items[b.writePos] :: b.items.drop (b.writePos + 1) :=
        List.drop_eq_getElem_cons hwp
      rw [hold, hdrop, lastN]
      have hcount : (b.items[b.writePos] :: b.items.drop (b.writePos + 1) ++
          b.items.take b.writePos ++ [x]).length - b.capacity = 1 := by
        simp only [List.length_append, List.length_cons, List.length_drop, List.length_take,
          List.length_nil]
        omega
      rw [hcount]
      rfl

end Buffer

end OverwriteRing
