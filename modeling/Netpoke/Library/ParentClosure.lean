import Mathlib

/-!
# Descendants by iteration to a fixpoint

Given entries `(id, parent)` of a map whose values may name a parent, the descendants of a
root are computed by passes over the entries: in each pass an entry whose parent is already
in the set, and which is not, joins the set; the passes stop after one that added nothing.

Each pass that adds something adds an entry not yet in the set, so the number of entries
outside the set measures the iteration (`closure` terminates by it), and the set reached is
exactly the root with every entry whose chain of parent links reaches the root
(`mem_closure_iff`), whatever the order of the entries, with cycles, self-parents and
parents that are no entry.
-/

namespace ParentClosure

variable {α : Type} [DecidableEq α]

/-- One entry of a pass: the set and whether the pass has added anything. -/
def passStep (acc : List α × Bool) (e : α × Option α) : List α × Bool :=
  match e.2 with
  | some parent => if parent ∈ acc.1 ∧ e.1 ∉ acc.1 then (e.1 :: acc.1, true) else acc
  | none => acc

def pass (entries : List (α × Option α)) (s : List α) : List α × Bool :=
  entries.foldl passStep (s, false)

def outside (entries : List (α × Option α)) (s : List α) : Nat :=
  (entries.filter fun e => e.1 ∉ s).length

/-- The chains of parent links: the root, and every entry whose parent is reached. -/
inductive Reaches (entries : List (α × Option α)) (root : α) : α → Prop
  | root : Reaches entries root root
  | child {id parent : α} : (id, some parent) ∈ entries → Reaches entries root parent →
      Reaches entries root id

section Pass

variable (entries : List (α × Option α))

theorem passStep_subset (acc : List α × Bool) (e : α × Option α) :
    acc.1 ⊆ (passStep acc e).1 := by
  unfold passStep
  split
  · split
    · exact List.subset_cons_self _ _
    · exact List.Subset.refl _
  · exact List.Subset.refl _

theorem foldl_passStep_subset (l : List (α × Option α)) (acc : List α × Bool) :
    acc.1 ⊆ (l.foldl passStep acc).1 := by
  induction l generalizing acc with
  | nil => exact List.Subset.refl _
  | cons e l ih => exact List.Subset.trans (passStep_subset acc e) (ih (passStep acc e))

theorem foldl_passStep_reaches {root : α} (l : List (α × Option α)) (hl : l ⊆ entries)
    (acc : List α × Bool) (hacc : ∀ x ∈ acc.1, Reaches entries root x) :
    ∀ x ∈ (l.foldl passStep acc).1, Reaches entries root x := by
  induction l generalizing acc with
  | nil => exact hacc
  | cons e l ih =>
    apply ih (fun f hf => hl (List.mem_cons_of_mem _ hf))
    obtain ⟨id, parent⟩ := e
    cases parent with
    | none => exact hacc
    | some parent =>
      simp only [passStep]
      split
      · rename_i hnew
        intro x hx
        rcases List.mem_cons.mp hx with rfl | hx
        · exact .child (hl List.mem_cons_self) (hacc parent hnew.1)
        · exact hacc x hx
      · exact hacc

/-- A pass that adds nothing leaves the set as it was, and then the set is closed under the
parent links of the entries it went over. -/
theorem foldl_passStep_unchanged (l : List (α × Option α)) (acc : List α × Bool)
    (h : (l.foldl passStep acc).2 = false) :
    (l.foldl passStep acc).1 = acc.1 ∧
      ∀ e ∈ l, ∀ parent, e.2 = some parent → parent ∈ acc.1 → e.1 ∈ acc.1 := by
  induction l generalizing acc with
  | nil => exact ⟨rfl, fun _ he => absurd he List.not_mem_nil⟩
  | cons e l ih =>
    obtain ⟨id, parent⟩ := e
    cases parent with
    | none =>
      obtain ⟨hsame, hclosed⟩ := ih acc h
      refine ⟨hsame, fun f hf p hp hmem => ?_⟩
      rcases List.mem_cons.mp hf with rfl | hf
      · cases hp
      · exact hclosed f hf p hp hmem
    | some parent =>
      by_cases hnew : parent ∈ acc.1 ∧ id ∉ acc.1
      · -- the entry joins the set, and the flag stays raised to the end of the pass
        have hflag : ∀ (l : List (α × Option α)) (acc : List α × Bool), acc.2 = true →
            (l.foldl passStep acc).2 = true := by
          intro l
          induction l with
          | nil => intro acc h; exact h
          | cons f l ihf =>
            intro acc hacc
            apply ihf
            unfold passStep
            split
            · split
              · rfl
              · exact hacc
            · exact hacc
        have := hflag l (id :: acc.1, true) rfl
        simp only [List.foldl_cons, passStep, if_pos hnew] at h
        rw [h] at this
        cases this
      · simp only [List.foldl_cons, passStep, if_neg hnew] at h ⊢
        obtain ⟨hsame, hclosed⟩ := ih acc h
        refine ⟨hsame, fun f hf p hp hmem => ?_⟩
        rcases List.mem_cons.mp hf with rfl | hf
        · cases hp
          by_contra hout
          exact hnew ⟨hmem, hout⟩
        · exact hclosed f hf p hp hmem

theorem foldl_passStep_progress (l : List (α × Option α)) (acc : List α × Bool)
    (hacc : acc.2 = false) (h : (l.foldl passStep acc).2 = true) :
    ∃ e ∈ l, e.1 ∉ acc.1 ∧ e.1 ∈ (l.foldl passStep acc).1 := by
  induction l generalizing acc with
  | nil =>
    rw [List.foldl_nil, hacc] at h
    cases h
  | cons e l ih =>
    obtain ⟨id, parent⟩ := e
    by_cases hnew : ∃ p, parent = some p ∧ p ∈ acc.1 ∧ id ∉ acc.1
    · obtain ⟨p, rfl, hp, hid⟩ := hnew
      refine ⟨(id, some p), List.mem_cons_self, hid, ?_⟩
      simp only [List.foldl_cons, passStep, if_pos (And.intro hp hid)]
      exact foldl_passStep_subset l _ List.mem_cons_self
    · have hsame : passStep acc (id, parent) = acc := by
        unfold passStep
        cases parent with
        | none => rfl
        | some p =>
          simp only
          rw [if_neg (fun hp => hnew ⟨p, rfl, hp⟩)]
      rw [List.foldl_cons, hsame] at h ⊢
      obtain ⟨f, hf, hout, hin⟩ := ih acc hacc h
      exact ⟨f, List.mem_cons_of_mem _ hf, hout, hin⟩

theorem outside_pass_lt {s s' : List α} (h : pass entries s = (s', true)) :
    outside entries s' < outside entries s := by
  have hsub : s ⊆ s' := by
    have := foldl_passStep_subset entries (s, false)
    rwa [pass, h] at *
  obtain ⟨e, he, hout, hin⟩ :=
    foldl_passStep_progress entries (s, false) rfl (by rw [← pass, h])
  rw [← pass, h] at hin
  unfold outside
  have hfilter : entries.filter (fun e => e.1 ∉ s') =
      (entries.filter fun e => e.1 ∉ s).filter fun e => e.1 ∉ s' := by
    rw [List.filter_filter]
    apply List.filter_congr
    intro f _
    by_cases hf' : f.1 ∈ s
    · have hf : f.1 ∈ s' := hsub hf'
      simp [hf, hf']
    · simp [hf']
  rw [hfilter, List.length_filter_lt_length_iff_exists]
  exact ⟨e, List.mem_filter.mpr ⟨he, by simpa using hout⟩, by simpa using hin⟩

end Pass

/-- The passes repeated until one adds nothing (`while changed { .. }`). -/
def closure (entries : List (α × Option α)) (s : List α) : List α :=
  if (pass entries s).2 = true then closure entries (pass entries s).1
  else (pass entries s).1
termination_by outside entries s
decreasing_by exact outside_pass_lt entries (Prod.ext rfl ‹_›)

theorem pass_subset (entries : List (α × Option α)) (s : List α) : s ⊆ (pass entries s).1 :=
  foldl_passStep_subset entries (s, false)

/-- The set computed from the root is the root and every entry whose chain of parent links
reaches it. -/
theorem mem_closure_iff (entries : List (α × Option α)) (root x : α) :
    x ∈ closure entries [root] ↔ Reaches entries root x := by
  -- the iteration keeps two facts of its set: the root is in it, and all of it is reached
  have key : ∀ s : List α, root ∈ s → (∀ y ∈ s, Reaches entries root y) →
      (x ∈ closure entries s ↔ Reaches entries root x) := by
    intro s
    induction s using closure.induct entries with
    | case1 s h ih =>
      intro hroot hreach
      rw [closure, if_pos h]
      exact ih (pass_subset entries s hroot)
        (foldl_passStep_reaches entries entries (List.Subset.refl _) (s, false) hreach)
    | case2 s h =>
      intro hroot hreach
      rw [closure, if_neg h]
      obtain ⟨hsame, hclosed⟩ :=
        foldl_passStep_unchanged entries (s, false) (by simpa [pass] using h)
      rw [← pass] at hsame
      rw [hsame]
      constructor
      · exact hreach x
      · intro hx
        induction hx with
        | root => exact hroot
        | child hentry _ ih => exact hclosed _ hentry _ rfl ih
  exact key [root] List.mem_cons_self (fun y hy => by
    rw [List.mem_singleton.mp hy]
    exact .root)

end ParentClosure
