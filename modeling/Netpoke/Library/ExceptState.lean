import Mathlib.Data.List.Infix

/-!
# Fallible steps that keep their state

Work on a connection is a chain of binds in `EStateM ε σ`, in which a failed step keeps the
state it reached: what was written before the error stays written. Core's `run_bind` walks such
a chain one bind at a time; `bind_eq_ok` and `bind_eq_error` take a finished run apart.

`Emits out p w` says what a computation writes to a log kept in its state (`out`, the bytes
written to a socket): `w` when it succeeds and a prefix of `w` when it fails, from every state.
It composes along a chain whose writes do not depend on what was read (`Emits.bind`).
`EmitsAll out p w` adds that a failure writes less than all of `w`: a chain of such writes has
written all its bytes exactly when it succeeded (`EmitsAll.bind`).
-/

namespace EStateM

variable {ε σ α β : Type}

/-- `throw` as `do` notation writes it, through `MonadExcept`, which core's `run_throw` does not
match. -/
@[simp] theorem run_throwError (e : ε) (s : σ) : (throw e : EStateM ε σ α).run s = .error e s :=
  rfl

@[simp] theorem run_liftExcept (x : Except ε α) (s : σ) :
    (liftExcept x : EStateM ε σ α).run s = match x with
      | .ok a => .ok a s
      | .error e => .error e s := by
  cases x <;> rfl

theorem bind_eq_ok {x : EStateM ε σ α} {f : α → EStateM ε σ β} {s s'' : σ} {b : β}
    (h : (x >>= f).run s = .ok b s'') : ∃ a s', x.run s = .ok a s' ∧ (f a).run s' = .ok b s'' := by
  rw [run_bind] at h
  cases hx : x.run s with
  | ok a s' =>
    rw [hx] at h
    exact ⟨a, s', rfl, h⟩
  | error e s' =>
    rw [hx] at h
    cases h

theorem bind_eq_error {x : EStateM ε σ α} {f : α → EStateM ε σ β} {s s'' : σ} {e : ε}
    (h : (x >>= f).run s = .error e s'') :
    x.run s = .error e s'' ∨ ∃ a s', x.run s = .ok a s' ∧ (f a).run s' = .error e s'' := by
  rw [run_bind] at h
  cases hx : x.run s with
  | ok a s' =>
    rw [hx] at h
    exact .inr ⟨a, s', rfl, h⟩
  | error e' s' =>
    rw [hx] at h
    cases h
    exact .inl rfl

/-! ### What a computation writes -/

variable {γ : Type} (out : σ → List γ)

/-- `p` appends `w` to the log when it succeeds, and a prefix of `w` when it fails. -/
structure Emits (p : EStateM ε σ α) (w : List γ) : Prop where
  ok : ∀ {s a s'}, p.run s = .ok a s' → out s' = out s ++ w
  error : ∀ {s e s'}, p.run s = .error e s' → ∃ u, u <+: w ∧ out s' = out s ++ u

theorem emits_pure (a : α) : Emits out (pure a : EStateM ε σ α) [] where
  ok h := by
    cases h
    simp
  error h := by cases h

theorem emits_throw (e : ε) : Emits out (throw e : EStateM ε σ α) [] where
  ok h := by cases h
  error h := by
    cases h
    exact ⟨[], List.nil_prefix, by simp⟩

/-- `p` emits `w`, and a failure has written less than all of it. -/
structure EmitsAll (p : EStateM ε σ α) (w : List γ) : Prop extends Emits out p w where
  error_ne : ∀ {s e s'}, p.run s = .error e s' → out s' ≠ out s ++ w

variable {out}

theorem Emits.bind {p : EStateM ε σ α} {f : α → EStateM ε σ β} {w w' : List γ}
    (hp : Emits out p w) (hf : ∀ a, Emits out (f a) w') : Emits out (p >>= f) (w ++ w') where
  ok h := by
    obtain ⟨a, s', hx, hrest⟩ := bind_eq_ok h
    rw [(hf a).ok hrest, hp.ok hx, List.append_assoc]
  error h := by
    rcases bind_eq_error h with hx | ⟨a, s', hx, hrest⟩
    · obtain ⟨u, hu, hout⟩ := hp.error hx
      exact ⟨u, hu.trans (List.prefix_append w w'), hout⟩
    · obtain ⟨u, hu, hout⟩ := (hf a).error hrest
      refine ⟨w ++ u, (List.prefix_append_right_inj w).mpr hu, ?_⟩
      rw [hout, hp.ok hx, List.append_assoc]

/-- Writes that fail short of all they write, one after another. -/
theorem EmitsAll.bind {p : EStateM ε σ α} {f : α → EStateM ε σ β} {w w' : List γ}
    (hp : EmitsAll out p w) (hf : ∀ a, EmitsAll out (f a) w') :
    EmitsAll out (p >>= f) (w ++ w') where
  toEmits := hp.toEmits.bind fun a => (hf a).toEmits
  error_ne h := by
    rcases bind_eq_error h with hx | ⟨a, s', hx, hrest⟩
    · obtain ⟨u, hu, hout⟩ := hp.error hx
      have hne : u ≠ w := fun huw => hp.error_ne hx (by rw [hout, huw])
      intro hall
      rw [hout, List.append_cancel_left_eq] at hall
      -- a prefix of `w` as long as `w ++ w'` leaves nothing of `w'`
      have hlen := hu.length_le
      rw [hall, List.length_append] at hlen
      have hnil : w' = [] := List.length_eq_zero_iff.mp (by omega)
      exact hne (by rw [hall, hnil, List.append_nil])
    · intro hall
      apply (hf a).error_ne hrest
      rw [hall, hp.ok hx, List.append_assoc]

/-- A chain whose rest writes something, and all of it unless it fails, has written all its
bytes only when it succeeds. -/
theorem Emits.bind_emitsAll {p : EStateM ε σ α} {f : α → EStateM ε σ β} {w w' : List γ}
    (hp : Emits out p w) (hf : ∀ a, EmitsAll out (f a) w') (hw' : w' ≠ []) :
    EmitsAll out (p >>= f) (w ++ w') where
  toEmits := hp.bind fun a => (hf a).toEmits
  error_ne h := by
    rcases bind_eq_error h with hx | ⟨a, s', hx, hrest⟩
    · obtain ⟨u, hu, hout⟩ := hp.error hx
      intro hall
      rw [hout, List.append_cancel_left_eq] at hall
      have hlen := hu.length_le
      rw [hall, List.length_append] at hlen
      exact hw' (List.length_eq_zero_iff.mp (by omega))
    · intro hall
      apply (hf a).error_ne hrest
      rw [hall, hp.ok hx, List.append_assoc]

end EStateM
