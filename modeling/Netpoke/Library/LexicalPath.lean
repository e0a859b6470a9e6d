import Mathlib

/-!
# Lexical paths

Unix paths as strings: pushing a path onto another as `PathBuf::push` does, the pieces
between separators, and the lexical normal form, in which empty pieces and `.` vanish and
`..` cancels the piece before it (at the root of an absolute path it stays at the root; at
the start of a relative one it is kept). A path lies strictly inside a directory when, in
normal form, it is the directory followed by at least one more piece and no `..`.

Pushing relative pieces none of which is `..` keeps a path strictly inside what it was pushed
onto (`strictlyInside_joinAll`). An absolute piece replaces the path instead, which is what
`join` of an absolute path returns.
-/

namespace LexicalPath

def isAbsolute (path : List Char) : Bool :=
  path.head? == some '/'

/-- `PathBuf::push` on Unix: an absolute path replaces the buffer; a relative one is appended,
after a separator unless the buffer is empty or already ends in one. -/
def join (base path : List Char) : List Char :=
  if isAbsolute path then path
  else if base.getLast?.all (· == '/') then base ++ path
  else base ++ '/' :: path

/-- The pieces between separators, without the empty ones and `.`. -/
def pieces (path : List Char) : List (List Char) :=
  (path.splitOn '/').filter fun piece => !piece.isEmpty && piece != ['.']

/-- One piece of the normal form, pushed onto the normal form so far, read backwards. -/
def cleanStep (absolute : Bool) (stack : List (List Char)) (piece : List Char) :
    List (List Char) :=
  if piece = ['.', '.'] then
    match stack with
    | top :: rest => if top = ['.', '.'] then piece :: stack else rest
    | [] => if absolute then [] else [piece]
  else piece :: stack

/-- The pieces of the lexical normal form. -/
def clean (path : List Char) : List (List Char) :=
  ((pieces path).foldl (cleanStep (isAbsolute path)) []).reverse

/-- `path` names something strictly below `dir`, both taken in normal form. -/
def strictlyInside (dir path : List Char) : Bool :=
  isAbsolute path == isAbsolute dir && (clean dir).isPrefixOf (clean path) &&
    decide ((clean dir).length < (clean path).length) &&
      !((clean path).drop (clean dir).length).contains ['.', '.']

def joinAll (base : List Char) (cs : List (List Char)) : List Char :=
  cs.foldl join base

theorem joinAll_cons (base c : List Char) (cs : List (List Char)) :
    joinAll base (c :: cs) = joinAll (join base c) cs := rfl

theorem pieces_nil : pieces [] = [] := rfl

theorem pieces_append_sep (a b : List Char) : pieces (a ++ '/' :: b) = pieces a ++ pieces b := by
  unfold pieces
  rw [List.splitOn, List.splitOnP_append_cons a b (by decide), List.filter_append]
  rfl

theorem pieces_of_not_mem {c : List Char} (h : '/' ∉ c) :
    pieces c = [c].filter fun piece => !piece.isEmpty && piece != ['.'] := by
  unfold pieces
  rw [List.splitOn, List.splitOnP_eq_singleton]
  intro x hx
  simpa using fun heq : x = '/' => h (heq ▸ hx)

theorem isAbsolute_of_not_mem {c : List Char} (h : '/' ∉ c) : isAbsolute c = false := by
  unfold isAbsolute
  cases c with
  | nil => rfl
  | cons d rest =>
    have hd : d ≠ '/' := fun heq => h (heq ▸ List.mem_cons_self)
    simp [hd]

theorem pieces_join (base : List Char) {path : List Char} (hrel : isAbsolute path = false) :
    pieces (join base path) = pieces base ++ pieces path := by
  unfold join
  rw [if_neg (by simp [hrel])]
  split
  · rename_i hsep
    -- the buffer is empty or ends in a separator, which becomes the one between them
    cases hlast : base.getLast? with
    | none =>
      rw [List.getLast?_eq_none_iff.mp hlast]
      rfl
    | some c =>
      rw [hlast] at hsep
      have hc : c = '/' := by simpa using hsep
      obtain ⟨init, rfl⟩ : ∃ init, base = init ++ [c] := by
        obtain ⟨init, hinit⟩ := List.getLast?_eq_some_iff.mp hlast
        exact ⟨init, hinit⟩
      subst hc
      rw [List.append_assoc, List.singleton_append, pieces_append_sep, pieces_append_sep,
        pieces_nil, List.append_nil]
  · exact pieces_append_sep base path

theorem isAbsolute_join (base : List Char) {path : List Char} (hrel : isAbsolute path = false) :
    isAbsolute (join base path) = isAbsolute base := by
  unfold join
  rw [if_neg (by simp [hrel])]
  cases base with
  | nil =>
    have hnil : isAbsolute ([] : List Char) = false := rfl
    simpa [hnil] using hrel
  | cons c rest =>
    split <;> rfl

theorem pieces_joinAll (base : List Char) (cs : List (List Char))
    (hrel : ∀ c ∈ cs, isAbsolute c = false) :
    pieces (joinAll base cs) = pieces base ++ cs.flatMap pieces := by
  induction cs generalizing base with
  | nil => simp [joinAll]
  | cons c cs ih =>
    rw [joinAll_cons, ih _ (fun d hd => hrel d (List.mem_cons_of_mem _ hd)),
      pieces_join base (hrel c List.mem_cons_self), List.flatMap_cons, List.append_assoc]

theorem isAbsolute_joinAll (base : List Char) (cs : List (List Char))
    (hrel : ∀ c ∈ cs, isAbsolute c = false) :
    isAbsolute (joinAll base cs) = isAbsolute base := by
  induction cs generalizing base with
  | nil => rfl
  | cons c cs ih =>
    rw [joinAll_cons, ih _ (fun d hd => hrel d (List.mem_cons_of_mem _ hd)),
      isAbsolute_join base (hrel c List.mem_cons_self)]

theorem foldl_cleanStep_of_ne (absolute : Bool) (ps : List (List Char))
    (hps : ∀ p ∈ ps, p ≠ ['.', '.']) (stack : List (List Char)) :
    ps.foldl (cleanStep absolute) stack = ps.reverse ++ stack := by
  induction ps generalizing stack with
  | nil => rfl
  | cons p ps ih =>
    rw [List.foldl_cons, ih (fun q hq => hps q (List.mem_cons_of_mem _ hq))]
    simp [cleanStep, hps p List.mem_cons_self]

theorem clean_of_pieces {dir path : List Char} {rest : List (List Char)}
    (habs : isAbsolute path = isAbsolute dir) (hpieces : pieces path = pieces dir ++ rest)
    (hrest : ∀ p ∈ rest, p ≠ ['.', '.']) : clean path = clean dir ++ rest := by
  unfold clean
  rw [hpieces, habs, List.foldl_append, foldl_cleanStep_of_ne _ rest hrest, List.reverse_append,
    List.reverse_reverse]

theorem strictlyInside_of_clean {dir path : List Char} {rest : List (List Char)}
    (habs : isAbsolute path = isAbsolute dir) (hclean : clean path = clean dir ++ rest)
    (hne : rest ≠ []) (hrest : ['.', '.'] ∉ rest) : strictlyInside dir path = true := by
  have hlen : (clean dir).length < (clean path).length := by
    rw [hclean, List.length_append]
    have := List.length_pos_of_ne_nil hne
    omega
  unfold strictlyInside
  rw [habs, hclean, List.drop_left]
  simp only [beq_self_eq_true, Bool.true_and, List.isPrefixOf_iff_prefix.mpr
    (List.prefix_append _ _), decide_eq_true (hclean ▸ hlen), Bool.and_true]
  simpa using hrest

/-- Pushing relative pieces, none of them `..` and one of them a name, ends strictly inside
the base. -/
theorem strictlyInside_joinAll (base : List Char) (cs : List (List Char))
    (hsep : ∀ c ∈ cs, '/' ∉ c) (hdd : ∀ c ∈ cs, c ≠ ['.', '.'])
    (hname : ∃ c ∈ cs, c ≠ [] ∧ c ≠ ['.']) : strictlyInside base (joinAll base cs) = true := by
  have hrel : ∀ c ∈ cs, isAbsolute c = false := fun c hc => isAbsolute_of_not_mem (hsep c hc)
  have hpiece : ∀ c ∈ cs, ∀ p ∈ pieces c, p = c ∧ p ≠ ['.', '.'] := by
    intro c hc p hp
    rw [pieces_of_not_mem (hsep c hc), List.mem_filter, List.mem_singleton] at hp
    exact ⟨hp.1, hp.1 ▸ hdd c hc⟩
  refine strictlyInside_of_clean (isAbsolute_joinAll base cs hrel)
    (clean_of_pieces (isAbsolute_joinAll base cs hrel) (pieces_joinAll base cs hrel) ?_) ?_ ?_
  · intro p hp
    obtain ⟨c, hc, hpc⟩ := List.mem_flatMap.mp hp
    exact (hpiece c hc p hpc).2
  · obtain ⟨c, hc, hne, hdot⟩ := hname
    have hmem : c ∈ pieces c := by
      rw [pieces_of_not_mem (hsep c hc)]
      simp [hne, hdot]
    exact List.ne_nil_of_mem (List.mem_flatMap.mpr ⟨c, hc, hmem⟩)
  · intro hp
    obtain ⟨c, hc, hpc⟩ := List.mem_flatMap.mp hp
    exact (hpiece c hc _ hpc).2 rfl

end LexicalPath
