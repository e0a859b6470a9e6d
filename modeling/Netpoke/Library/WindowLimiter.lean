import Mathlib

/-!
# Fixed-window rate limiters

A fixed-window limiter counts what it let through since the start of its current window. At
each attempt it first opens a new window when the current one is at least `window` old, and
then lets a block through unless the budget `limit` of the window is already spent. A block
let through is added to the count.

Over any run of attempts at nondecreasing times, with blocks of at most `block` units, the
units let through inside each window total at most `limit + block`, and later windows start
at least `window` after earlier ones: `Inv` holds from the start (`Inv.init`) and is kept by the
passing of time and by each block let through (`Inv.advance`, `Inv.gate_record`).
-/

namespace WindowLimiter

/-- The start of the current window and the units let through in it. -/
structure State where
  windowStart : Nat
  used : Nat
  deriving DecidableEq, Repr

/-- The limiter's decision at time `now`: the state to count the block in, or `none` when
the block has to wait. -/
def gate (window limit now : Nat) (s : State) : Option State :=
  if window ≤ now - s.windowStart then some ⟨now, 0⟩
  else if limit ≤ s.used then none
  else some s

def record (size : Nat) (s : State) : State :=
  ⟨s.windowStart, s.used + size⟩

/-- The units let through in the window starting at `start`, from a log of
(window start, size) pairs. -/
def windowTotal (sent : List (Nat × Nat)) (start : Nat) : Nat :=
  ((sent.filter fun e => e.1 = start).map Prod.snd).sum

theorem windowTotal_append_single (sent : List (Nat × Nat)) (w size start : Nat) :
    windowTotal (sent ++ [(w, size)]) start =
      windowTotal sent start + if w = start then size else 0 := by
  by_cases h : w = start <;> simp [windowTotal, List.filter_append, h]

theorem windowTotal_eq_zero {sent : List (Nat × Nat)} {start : Nat}
    (h : ∀ e ∈ sent, e.1 < start) : windowTotal sent start = 0 := by
  have hnil : sent.filter (fun e => e.1 = start) = [] := by
    rw [List.filter_eq_nil_iff]
    intro e he
    have := h e he
    simp only [decide_eq_true_eq]
    omega
  simp [windowTotal, hnil]

section Invariant

variable (window limit block : Nat)

/-- What holds of the state and the log after any run: each window's total is in budget, the
current window's total is the count, no block belongs to a later window, and windows start
at least `window` apart. -/
structure Inv (s : State) (sent : List (Nat × Nat)) (clock : Nat) : Prop where
  total_le : ∀ start, windowTotal sent start ≤ limit + block
  used_eq : windowTotal sent s.windowStart = s.used
  used_le : s.used ≤ limit + block
  start_ge : ∀ e ∈ sent, e.1 ≤ s.windowStart
  start_le : s.windowStart ≤ clock
  gap : ∀ e ∈ sent, e.1 = s.windowStart ∨ e.1 + window ≤ s.windowStart
  sep : ∀ e ∈ sent, ∀ e' ∈ sent, e.1 < e'.1 → e.1 + window ≤ e'.1

theorem Inv.init (start : Nat) : Inv window limit block ⟨start, 0⟩ [] start where
  total_le := fun _ => Nat.zero_le _
  used_eq := rfl
  used_le := Nat.zero_le _
  start_ge := fun _ h => absurd h List.not_mem_nil
  start_le := le_refl _
  gap := fun _ h => absurd h List.not_mem_nil
  sep := fun _ h => absurd h List.not_mem_nil

variable {window limit block}

theorem Inv.advance {s : State} {sent : List (Nat × Nat)} {clock later : Nat}
    (h : Inv window limit block s sent clock) (hle : clock ≤ later) :
    Inv window limit block s sent later :=
  { h with start_le := le_trans h.start_le hle }

theorem gate_room {now : Nat} {s s' : State} (h : gate window limit now s = some s') :
    s'.used = 0 ∨ s'.used < limit := by
  unfold gate at h
  split_ifs at h with hreset hspent
  · cases h
    exact .inl rfl
  · cases h
    exact .inr (Nat.lt_of_not_le hspent)

/-- The decision at a time not before the window keeps the invariant: a window opened at
`now` is after every block logged so far. -/
theorem Inv.after_gate (hwindow : 0 < window) {s s' : State} {sent : List (Nat × Nat)} {now : Nat}
    (h : Inv window limit block s sent now) (hgate : gate window limit now s = some s') :
    Inv window limit block s' sent now := by
  unfold gate at hgate
  split_ifs at hgate with hreset hspent
  · cases hgate
    have hold : ∀ e ∈ sent, e.1 + window ≤ now := fun e he => by
      have := h.start_ge e he
      have := h.start_le
      omega
    have hfresh : ∀ e ∈ sent, e.1 < now := fun e he => by
      have := hold e he
      omega
    exact ⟨h.total_le, windowTotal_eq_zero hfresh, Nat.zero_le _,
      fun e he => le_of_lt (hfresh e he), le_refl _, fun e he => .inr (hold e he), h.sep⟩
  · cases hgate
    exact h

/-- Counting a block of at most `block` units in a fresh window or one with budget left keeps
the invariant. -/
theorem Inv.after_record {s : State} {sent : List (Nat × Nat)} {now size : Nat}
    (h : Inv window limit block s sent now) (hroom : s.used = 0 ∨ s.used < limit)
    (hsize : size ≤ block) :
    Inv window limit block (record size s) (sent ++ [(s.windowStart, size)]) now := by
  have hused := h.used_eq
  have hbudget : s.used + size ≤ limit + block := by omega
  refine ⟨fun start => ?_, ?_, hbudget, ?_, h.start_le, ?_, ?_⟩
  · rw [windowTotal_append_single]
    by_cases hstart : s.windowStart = start
    · subst hstart
      rw [if_pos rfl, hused]
      exact hbudget
    · rw [if_neg hstart]
      exact h.total_le start
  · simp only [record, windowTotal_append_single, if_pos, hused]
  · intro e he
    rcases List.mem_append.mp he with he | he
    · exact h.start_ge e he
    · simp at he
      simp [he, record]
  · intro e he
    rcases List.mem_append.mp he with he | he
    · exact h.gap e he
    · simp at he
      simp [he, record]
  · intro e he e' he' hlt
    rcases List.mem_append.mp he with he | he <;> rcases List.mem_append.mp he' with he' | he'
    · exact h.sep e he e' he' hlt
    · -- a block of an earlier window than the current one
      simp only [List.mem_singleton] at he'
      rw [he'] at hlt ⊢
      rcases h.gap e he with heq | hle
      · omega
      · exact hle
    · simp only [List.mem_singleton] at he
      have := h.start_ge e' he'
      rw [he] at hlt
      omega
    · simp only [List.mem_singleton] at he he'
      rw [he, he'] at hlt
      omega

/-- Letting a block of at most `block` units through at a time not before the window keeps
the invariant; the new entry of the log is the window the block is counted in. -/
theorem Inv.gate_record (hwindow : 0 < window) {s s' : State} {sent : List (Nat × Nat)}
    {now size : Nat} (h : Inv window limit block s sent now) (hsize : size ≤ block)
    (hgate : gate window limit now s = some s') :
    Inv window limit block (record size s') (sent ++ [(s'.windowStart, size)]) now :=
  (h.after_gate hwindow hgate).after_record (gate_room hgate) hsize

end Invariant

end WindowLimiter
