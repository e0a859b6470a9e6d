import Mathlib

/-!
# Finite maps as association lists

A hash map is observed only through the value stored under each key, so it is modelled by an
association list whose keys are pairwise distinct; the invariant is a field, and every
operation keeps it. `get` after each operation is given by one lemma per operation, which is
all that later proofs use.
-/

/-- A finite map from `α` to `β`: an association list without repeated keys. -/
structure AssocMap (α β : Type) where
  entries : List (α × β)
  nodup : (entries.map Prod.fst).Nodup

namespace AssocMap

lemma nodup_filter_keys {α β : Type} (l : List (α × β)) (p : α × β → Bool)
    (h : (l.map Prod.fst).Nodup) : ((l.filter p).map Prod.fst).Nodup :=
  (List.filter_sublist.map Prod.fst).nodup h

variable {α β : Type} [DecidableEq α]

def getAux : List (α × β) → α → Option β
  | [], _ => none
  | (k', v) :: rest, k => if k' = k then some v else getAux rest k

def get (m : AssocMap α β) (k : α) : Option β :=
  getAux m.entries k

def containsKey (m : AssocMap α β) (k : α) : Bool :=
  (m.get k).isSome

def isEmpty (m : AssocMap α β) : Bool :=
  m.entries.isEmpty

def size (m : AssocMap α β) : Nat :=
  m.entries.length

def empty : AssocMap α β :=
  ⟨[], List.nodup_nil⟩

def erase (m : AssocMap α β) (k : α) : AssocMap α β :=
  ⟨m.entries.filter (fun e => e.1 ≠ k), nodup_filter_keys _ _ m.nodup⟩

/-- The map with `v` stored under `k`, replacing any earlier value. -/
def insert (m : AssocMap α β) (k : α) (v : β) : AssocMap α β :=
  ⟨(k, v) :: (m.erase k).entries, by
    refine List.nodup_cons.mpr ⟨?_, (m.erase k).nodup⟩
    intro hk
    obtain ⟨e, he, hek⟩ := List.mem_map.mp hk
    have hne := (List.mem_filter.mp he).2
    simp [hek] at hne⟩

def retain (m : AssocMap α β) (p : α → β → Bool) : AssocMap α β :=
  ⟨m.entries.filter (fun e => p e.1 e.2), nodup_filter_keys _ _ m.nodup⟩

def modify (m : AssocMap α β) (k : α) (f : β → β) : AssocMap α β :=
  ⟨m.entries.map (fun e => if e.1 = k then (e.1, f e.2) else e), by
    have hkeys : (m.entries.map (fun e => if e.1 = k then (e.1, f e.2) else e)).map Prod.fst =
        m.entries.map Prod.fst := by
      simp only [List.map_map]
      apply List.map_congr_left
      intro e _
      by_cases he : e.1 = k <;> simp [he]
    rw [hkeys]
    exact m.nodup⟩

lemma getAux_filter (l : List (α × β)) (p : α × β → Bool) (k : α) (hl : (l.map Prod.fst).Nodup) :
    getAux (l.filter p) k = (getAux l k).bind fun v => if p (k, v) then some v else none := by
  induction l with
  | nil => rfl
  | cons e rest ih =>
    obtain ⟨k', v⟩ := e
    have hrest : (rest.map Prod.fst).Nodup := (List.nodup_cons.mp hl).2
    have hfresh : k' ∉ rest.map Prod.fst := (List.nodup_cons.mp hl).1
    by_cases hk : k' = k
    · subst hk
      have hnone : getAux (rest.filter p) k' = none := by
        rw [ih hrest]
        have habsent : getAux rest k' = none := by
          clear ih hl hrest
          induction rest with
          | nil => rfl
          | cons e rest ihr =>
            have he : e.1 ≠ k' := fun h => hfresh (h ▸ List.mem_cons_self)
            simp only [getAux, he, if_false]
            exact ihr (fun h => hfresh (List.mem_cons_of_mem _ h))
        rw [habsent]
        rfl
      by_cases hp : p (k', v) <;> simp [hp, getAux, hnone]
    · by_cases hp : p (k', v) <;> simp [hp, getAux, hk, ih hrest]

@[simp] theorem get_empty (k : α) : (empty : AssocMap α β).get k = none := rfl

theorem get_retain (m : AssocMap α β) (p : α → β → Bool) (k : α) :
    (m.retain p).get k = (m.get k).bind fun v => if p k v then some v else none :=
  getAux_filter m.entries _ k m.nodup

@[simp] theorem get_erase_self (m : AssocMap α β) (k : α) : (m.erase k).get k = none := by
  unfold get erase
  rw [getAux_filter _ _ _ m.nodup]
  cases getAux m.entries k <;> simp

theorem get_erase_ne (m : AssocMap α β) {k k' : α} (h : k' ≠ k) :
    (m.erase k).get k' = m.get k' := by
  unfold get erase
  rw [getAux_filter _ _ _ m.nodup]
  cases getAux m.entries k' <;> simp [h]

@[simp] theorem get_insert_self (m : AssocMap α β) (k : α) (v : β) :
    (m.insert k v).get k = some v := by
  simp [get, insert, getAux]

theorem get_insert_ne (m : AssocMap α β) {k k' : α} (v : β) (h : k' ≠ k) :
    (m.insert k v).get k' = m.get k' := by
  have hk : k ≠ k' := fun hkk => h hkk.symm
  simp only [get, insert, getAux, hk, if_false]
  exact get_erase_ne m h

lemma getAux_map_modify (l : List (α × β)) (k k' : α) (f : β → β) :
    getAux (l.map (fun e => if e.1 = k then (e.1, f e.2) else e)) k' =
      if k' = k then (getAux l k').map f else getAux l k' := by
  induction l with
  | nil => simp [getAux]
  | cons e rest ih =>
    obtain ⟨k'', v⟩ := e
    by_cases hk : k'' = k <;> by_cases hk' : k'' = k' <;> simp_all [getAux]

theorem get_modify (m : AssocMap α β) (k k' : α) (f : β → β) :
    (m.modify k f).get k' = if k' = k then (m.get k').map f else m.get k' :=
  getAux_map_modify m.entries k k' f

theorem containsKey_iff (m : AssocMap α β) (k : α) : m.containsKey k = true ↔ ∃ v, m.get k = some v := by
  simp [containsKey, Option.isSome_iff_exists]

theorem get_eq_none_iff (m : AssocMap α β) (k : α) : m.get k = none ↔ m.containsKey k = false := by
  simp [containsKey]

theorem isEmpty_iff (m : AssocMap α β) : m.isEmpty = true ↔ ∀ k, m.get k = none := by
  unfold isEmpty get
  constructor
  · intro h k
    rw [List.isEmpty_iff.mp h]
    rfl
  · intro h
    cases hm : m.entries with
    | nil => rfl
    | cons e rest =>
      have he := h e.1
      rw [hm] at he
      simp [getAux] at he

lemma getAux_isSome_iff (l : List (α × β)) (k : α) :
    (getAux l k).isSome = true ↔ k ∈ l.map Prod.fst := by
  induction l with
  | nil => simp [getAux]
  | cons e rest ih =>
    obtain ⟨k', v⟩ := e
    by_cases hk : k' = k
    · simp [getAux, hk]
    · simp [getAux, hk, ih, Ne.symm hk]

theorem containsKey_iff_mem (m : AssocMap α β) (k : α) :
    m.containsKey k = true ↔ k ∈ m.entries.map Prod.fst :=
  getAux_isSome_iff m.entries k

theorem size_eq_length {m : AssocMap α β} {keys : List α} (hnodup : keys.Nodup)
    (hmem : ∀ k, k ∈ keys ↔ m.containsKey k = true) : m.size = keys.length := by
  have hperm : (m.entries.map Prod.fst).Perm keys := by
    rw [List.perm_ext_iff_of_nodup m.nodup hnodup]
    intro k
    rw [hmem k, containsKey_iff_mem]
  rw [size, ← List.length_map Prod.fst, hperm.length_eq]

theorem length_le_size {m : AssocMap α β} {keys : List α} (hnodup : keys.Nodup)
    (hmem : ∀ k ∈ keys, m.containsKey k = true) : keys.length ≤ m.size := by
  have hsub : keys.Subperm (m.entries.map Prod.fst) :=
    List.subperm_of_subset hnodup fun k hk => (containsKey_iff_mem m k).mp (hmem k hk)
  simpa [size] using hsub.length_le

theorem size_le_size_insert (m : AssocMap α β) (k : α) (v : β) : m.size ≤ (m.insert k v).size := by
  have hsub : (m.entries.map Prod.fst).Subperm ((m.insert k v).entries.map Prod.fst) := by
    apply List.subperm_of_subset m.nodup
    intro x hx
    rw [← containsKey_iff_mem] at hx ⊢
    by_cases hxk : x = k
    · subst hxk
      simp [containsKey]
    · rw [containsKey, get_insert_ne _ _ hxk]
      exact hx
  simpa [size] using hsub.length_le

theorem keys_erase (m : AssocMap α β) (k : α) :
    (m.erase k).entries.map Prod.fst = (m.entries.map Prod.fst).filter (· ≠ k) := by
  simp only [erase, List.filter_map]
  rfl

theorem keys_erase_eq_erase (m : AssocMap α β) (k : α) :
    (m.erase k).entries.map Prod.fst = (m.entries.map Prod.fst).erase k := by
  rw [keys_erase, List.Nodup.erase_eq_filter m.nodup k]
  exact List.filter_congr fun x _ => by by_cases hx : x = k <;> simp [hx]

theorem size_erase_add_one {m : AssocMap α β} {k : α} (h : m.containsKey k = true) :
    (m.erase k).size + 1 = m.size := by
  have hmem := (containsKey_iff_mem m k).mp h
  have hlen := congrArg List.length (keys_erase_eq_erase m k)
  rw [List.length_map, List.length_erase_of_mem hmem, List.length_map] at hlen
  have hpos : 0 < m.entries.length := by
    rw [← List.length_map Prod.fst]
    exact List.length_pos_of_mem hmem
  unfold size
  omega

theorem containsKey_insert (m : AssocMap α β) (k k' : α) (v : β) :
    (m.insert k v).containsKey k' = true ↔ k' = k ∨ m.containsKey k' = true := by
  by_cases hk : k' = k
  · subst hk
    simp [containsKey]
  · simp [containsKey, get_insert_ne _ _ hk, hk]

theorem keys_insert (m : AssocMap α β) (k : α) (v : β) :
    (m.insert k v).entries.map Prod.fst = k :: (m.entries.map Prod.fst).filter (· ≠ k) := by
  rw [← keys_erase]
  rfl

theorem keys_insert_perm {m : AssocMap α β} {k : α} (h : m.containsKey k = true) (v : β) :
    ((m.insert k v).entries.map Prod.fst).Perm (m.entries.map Prod.fst) := by
  rw [keys_insert, ← keys_erase, keys_erase_eq_erase]
  exact (List.perm_cons_erase ((containsKey_iff_mem m k).mp h)).symm

end AssocMap
