import Mathlib

/-!
# Text as lists of characters

Text handling code is built from a few operations on character sequences: replacing one
character by another, splitting at a separator and joining with one, trimming whitespace at
both ends, and reading an unsigned decimal numeral. This file defines them over `List Char`
and proves the laws that decoders rely on: joining the pieces of a split with a second
separator is a character replacement, a list joined with a padded separator splits back into
its padded items, trimming keeps text that neither starts nor ends with whitespace, and the
numeral printed for `n` reads back as `n`.
-/

namespace CharList

def replaceChar (a b : Char) (s : List Char) : List Char :=
  s.map fun c => if c = a then b else c

@[simp] theorem replaceChar_nil (a b : Char) : replaceChar a b [] = [] := rfl

@[simp] theorem replaceChar_cons (a b c : Char) (s : List Char) :
    replaceChar a b (c :: s) = (if c = a then b else c) :: replaceChar a b s := rfl

@[simp] theorem replaceChar_append (a b : Char) (s t : List Char) :
    replaceChar a b (s ++ t) = replaceChar a b s ++ replaceChar a b t := by
  simp [replaceChar]

theorem not_mem_of_all {α : Type} {p : α → Bool} {l : List α} {a : α} (h : l.all p = true)
    (ha : p a = false) : a ∉ l := fun hmem => by
  simp [List.all_eq_true.mp h a hmem] at ha

theorem replaceChar_of_not_mem {a : Char} (b : Char) {s : List Char} (h : a ∉ s) :
    replaceChar a b s = s := by
  induction s with
  | nil => rfl
  | cons c s ih =>
    have hc : c ≠ a := fun hca => h (hca ▸ List.mem_cons_self)
    simp [hc, ih (fun hs => h (List.mem_cons_of_mem _ hs))]

theorem all_replaceChar {p : Char → Bool} (a : Char) {b : Char} (hb : p b = true) {s : List Char}
    (hs : s.all p = true) : (replaceChar a b s).all p = true := by
  simp only [replaceChar, List.all_map, List.all_eq_true, Function.comp_apply] at hs ⊢
  intro c hc
  by_cases hca : c = a
  · rw [if_pos hca]
    exact hb
  · rw [if_neg hca]
    exact hs c hc

theorem replaceChar_replaceChar (a b : Char) (s : List Char) :
    replaceChar b a (replaceChar a b s) = replaceChar b a s := by
  induction s with
  | nil => rfl
  | cons c s ih =>
    by_cases hca : c = a
    · subst hca
      by_cases hcb : c = b
      · subst hcb
        simp [ih]
      · simp [hcb, ih]
    · simp [hca, ih]

theorem intercalate_append_head {α : Type} (sep w l : List α) (rest : List (List α)) :
    sep.intercalate ((w ++ l) :: rest) = w ++ sep.intercalate (l :: rest) := by
  cases rest with
  | nil => simp
  | cons r rest => simp [List.intercalate_cons_of_ne_nil]

theorem all_intercalate {α : Type} {p : α → Bool} {sep : List α} (hsep : sep.all p = true) :
    ∀ {ls : List (List α)}, (∀ l ∈ ls, l.all p = true) → (sep.intercalate ls).all p = true
  | [], _ => rfl
  | [l], h => by simpa using h l List.mem_cons_self
  | l :: l' :: ls, h => by
    rw [List.intercalate_cons_cons, List.all_append, List.all_append, h l List.mem_cons_self, hsep,
      all_intercalate hsep (fun m hm => h m (List.mem_cons_of_mem _ hm))]
    rfl

theorem not_mem_of_mem_splitOn {α : Type} [BEq α] [LawfulBEq α] (a : α) :
    ∀ (s : List α), ∀ p ∈ s.splitOn a, a ∉ p
  | [] => by simp [List.splitOn_nil]
  | x :: xs => by
    intro p hp
    rw [List.splitOn_cons_eq_if_modifyHead] at hp
    split at hp
    · rcases List.mem_cons.mp hp with rfl | hp
      · exact List.not_mem_nil
      · exact not_mem_of_mem_splitOn a xs p hp
    · rename_i hx
      obtain ⟨first, rest, hsplit⟩ := List.exists_cons_of_ne_nil (List.splitOn_ne_nil a xs)
      rw [hsplit, List.modifyHead_cons] at hp
      rcases List.mem_cons.mp hp with rfl | hp
      · intro hmem
        rcases List.mem_cons.mp hmem with hax | hfirst
        · exact hx (by rw [hax, beq_self_eq_true])
        · exact not_mem_of_mem_splitOn a xs first (hsplit ▸ List.mem_cons_self) hfirst
      · exact not_mem_of_mem_splitOn a xs p (hsplit ▸ List.mem_cons_of_mem _ hp)

theorem intercalate_append_cons {α : Type} (sep : List α) (m : List α) (ms : List (List α)) :
    ∀ {ls : List (List α)}, ls ≠ [] →
      sep.intercalate (ls ++ m :: ms) = sep.intercalate ls ++ sep ++ sep.intercalate (m :: ms)
  | [], h => absurd rfl h
  | [l], _ => by rw [List.singleton_append, List.intercalate_cons_cons, List.intercalate_singleton]
  | l :: l' :: rest, _ =>
    calc sep.intercalate ((l :: l' :: rest) ++ m :: ms)
        = l ++ sep ++ sep.intercalate ((l' :: rest) ++ m :: ms) := List.intercalate_cons_cons
      _ = l ++ sep ++ (sep.intercalate (l' :: rest) ++ sep ++ sep.intercalate (m :: ms)) := by
        rw [intercalate_append_cons sep m ms (List.cons_ne_nil l' rest)]
      _ = sep.intercalate (l :: l' :: rest) ++ sep ++ sep.intercalate (m :: ms) := by
        simp only [List.intercalate_cons_cons, List.append_assoc]

theorem intercalate_append_sep {α : Type} (sep : List α) :
    ∀ {ls : List (List α)}, ls ≠ [] → sep.intercalate ls ++ sep = ls.flatMap (· ++ sep)
  | [], h => absurd rfl h
  | [l], _ => by simp
  | l :: m :: rest, _ => by
    rw [List.intercalate_cons_cons, List.append_assoc, List.append_assoc,
      intercalate_append_sep sep (List.cons_ne_nil m rest)]
    simp only [List.flatMap_cons, List.append_assoc]

/-- Joining the pieces of a split at `a` with `b` replaces every `a` by `b`. -/
theorem intercalate_splitOn_eq_replaceChar (a b : Char) (s : List Char) :
    [b].intercalate (s.splitOn a) = replaceChar a b s := by
  induction s with
  | nil => rfl
  | cons c s ih =>
    rw [List.splitOn_cons_eq_if_modifyHead]
    by_cases hca : c = a
    · have hrest := List.splitOn_ne_nil a s
      simp only [hca, beq_self_eq_true, if_true, List.intercalate_cons_of_ne_nil hrest, ih,
        replaceChar_cons]
      rfl
    · have hne : (c == a) = false := beq_eq_false_iff_ne.mpr hca
      obtain ⟨l, rest, hsplit⟩ := List.exists_cons_of_ne_nil (List.splitOn_ne_nil a s)
      rw [hsplit] at ih
      have hcons := intercalate_append_head [b] [c] l rest
      simp only [List.singleton_append] at hcons
      simp only [hne, Bool.false_eq_true, if_false, hsplit, List.modifyHead_cons, hcons, ih,
        replaceChar_cons, hca]

/-- Items joined by a separator `a` followed by padding `w` split at `a` into the first item
and the padded remaining items. -/
theorem splitOn_intercalate_padded (a : Char) (w : List Char) (item : List Char)
    (rest : List (List Char)) (hw : a ∉ w) (hitem : a ∉ item) (hrest : ∀ r ∈ rest, a ∉ r) :
    ((a :: w).intercalate (item :: rest)).splitOn a = item :: rest.map (w ++ ·) := by
  have hjoin : ∀ (first : List Char) (more : List (List Char)),
      (a :: w).intercalate (first :: more) = [a].intercalate (first :: more.map (w ++ ·)) := by
    intro first more
    induction more generalizing first with
    | nil => rfl
    | cons m more ih =>
      rw [List.intercalate_cons_of_ne_nil (List.cons_ne_nil _ _), ih, List.map_cons,
        List.intercalate_cons_of_ne_nil (List.cons_ne_nil _ _), intercalate_append_head]
      simp only [List.append_assoc, List.cons_append, List.nil_append]
  rw [hjoin]
  apply List.splitOn_intercalate a _ (List.cons_ne_nil _ _)
  intro l hl
  rcases List.mem_cons.mp hl with rfl | hl
  · exact hitem
  · obtain ⟨r, hr, rfl⟩ := List.mem_map.mp hl
    simpa [hw] using hrest r hr

/-- The pieces before and after the first `c`, if there is one. -/
def splitOnce (c : Char) : List Char → Option (List Char × List Char)
  | [] => none
  | d :: rest => if d = c then some ([], rest) else (splitOnce c rest).map fun p => (d :: p.1, p.2)

theorem splitOnce_append_cons_of_not_mem {c : Char} {w : List Char} (h : c ∉ w) (v : List Char) :
    splitOnce c (w ++ c :: v) = some (w, v) := by
  induction w with
  | nil => simp [splitOnce]
  | cons d w ih =>
    have hd : d ≠ c := fun hdc => h (hdc ▸ List.mem_cons_self)
    simp [splitOnce, hd, ih (fun hmem => h (List.mem_cons_of_mem d hmem))]

/-- `&s[..n]`: the first `n` bytes of the UTF-8 text, or `none`, where the slice panics, when
byte `n` is inside a character or past the end. -/
def sliceTo : List Char → Nat → Option (List Char)
  | _, 0 => some []
  | [], _ + 1 => none
  | c :: rest, n + 1 =>
    if c.utf8Size ≤ n + 1 then (sliceTo rest (n + 1 - c.utf8Size)).map (c :: ·) else none

def utf8Len (s : List Char) : Nat :=
  (s.map Char.utf8Size).sum

/-- `if s.len() > n { &s[..n] } else { s }`: the text cut to at most `n` bytes. -/
def bytePrefix (n : Nat) (s : List Char) : Option (List Char) :=
  if utf8Len s > n then sliceTo s n else some s

@[simp]
theorem utf8Len_nil : utf8Len [] = 0 := rfl

@[simp]
theorem utf8Len_cons (c : Char) (s : List Char) : utf8Len (c :: s) = c.utf8Size + utf8Len s := by
  simp [utf8Len]

theorem utf8Len_eq_zero {s : List Char} : utf8Len s = 0 ↔ s = [] := by
  cases s with
  | nil => simp
  | cons c s =>
    have := Char.utf8Size_pos c
    simp only [utf8Len_cons, reduceCtorEq, iff_false]
    omega

/-- The slice `&s[..n]` is the prefix of the text that is `n` bytes long, when there is one. -/
theorem sliceTo_eq_some_iff {s p : List Char} {n : Nat} :
    sliceTo s n = some p ↔ p <+: s ∧ utf8Len p = n := by
  induction s generalizing n p with
  | nil =>
    cases n with
    | zero =>
      simp only [sliceTo, Option.some.injEq, List.prefix_nil]
      constructor
      · rintro rfl
        exact ⟨rfl, rfl⟩
      · exact fun h => h.1.symm
    | succ n =>
      simp only [sliceTo, reduceCtorEq, false_iff, List.prefix_nil, not_and]
      rintro rfl
      simp
  | cons c rest ih =>
    cases n with
    | zero =>
      simp only [sliceTo, Option.some.injEq, utf8Len_eq_zero]
      constructor
      · rintro rfl
        exact ⟨List.nil_prefix, rfl⟩
      · exact fun h => h.2.symm
    | succ n =>
      simp only [sliceTo]
      split_ifs with hsize
      · simp only [Option.map_eq_some_iff, ih]
        constructor
        · rintro ⟨p', ⟨hp', hlen⟩, rfl⟩
          exact ⟨List.cons_prefix_cons.mpr ⟨rfl, hp'⟩, by simp only [utf8Len_cons]; omega⟩
        · rintro ⟨hp, hlen⟩
          cases p with
          | nil => simp at hlen
          | cons d p' =>
            obtain ⟨rfl, hp'⟩ := List.cons_prefix_cons.mp hp
            exact ⟨p', ⟨hp', by simp only [utf8Len_cons] at hlen; omega⟩, rfl⟩
      · simp only [false_iff, not_and]
        intro hp hlen
        cases p with
        | nil => simp at hlen
        | cons d p' =>
          obtain ⟨rfl, -⟩ := List.cons_prefix_cons.mp hp
          simp only [utf8Len_cons] at hlen
          omega

theorem sliceTo_replicate_append {a : Char} (ha : a.utf8Size = 1) (k n : Nat) (s : List Char) :
    sliceTo (List.replicate k a ++ s) (k + n) = (sliceTo s n).map (List.replicate k a ++ ·) := by
  induction k with
  | zero => simp
  | succ k ih =>
    rw [List.replicate_succ, List.cons_append, show k + 1 + n = (k + n) + 1 by omega]
    simp only [sliceTo, ha, Nat.le_add_left, if_true, Nat.add_sub_cancel, ih, Option.map_map]
    rfl

/-- The slice panics exactly when no prefix of the text is `n` bytes long: byte `n` is inside
a character or past the end. -/
theorem sliceTo_eq_none_iff {s : List Char} {n : Nat} :
    sliceTo s n = none ↔ ∀ p, p <+: s → utf8Len p ≠ n := by
  rw [Option.eq_none_iff_forall_ne_some]
  simp only [ne_eq, sliceTo_eq_some_iff, not_and]

theorem bytePrefix_eq_none_iff {s : List Char} {n : Nat} :
    bytePrefix n s = none ↔ n < utf8Len s ∧ ∀ p, p <+: s → utf8Len p ≠ n := by
  unfold bytePrefix
  split_ifs with hlong
  · rw [sliceTo_eq_none_iff]
    exact ⟨fun h => ⟨hlong, h⟩, fun h => h.2⟩
  · simp only [false_iff, not_and]
    intro hlt
    exact absurd hlt hlong

/-! ### Trimming -/

/-- The characters with the Unicode `White_Space` property. -/
def isUnicodeWhiteSpace (c : Char) : Bool :=
  c.val ∈ ([0x09, 0x0A, 0x0B, 0x0C, 0x0D, 0x20, 0x85, 0xA0, 0x1680, 0x2000, 0x2001, 0x2002,
    0x2003, 0x2004, 0x2005, 0x2006, 0x2007, 0x2008, 0x2009, 0x200A, 0x2028, 0x2029, 0x202F,
    0x205F, 0x3000] : List UInt32)

/-- Drops the characters satisfying `p` at both ends. -/
def trimBy (p : Char → Bool) (s : List Char) : List Char :=
  ((s.dropWhile p).reverse.dropWhile p).reverse

theorem dropWhile_of_head {p : Char → Bool} {s : List Char} (h : ∀ c ∈ s.head?, p c = false) :
    s.dropWhile p = s := by
  cases s with
  | nil => rfl
  | cons c s => simp [h c rfl]

theorem trimBy_of_ends {p : Char → Bool} {s : List Char} (hhead : ∀ c ∈ s.head?, p c = false)
    (hlast : ∀ c ∈ s.getLast?, p c = false) : trimBy p s = s := by
  have hrev : ∀ c ∈ s.reverse.head?, p c = false := by
    simpa [List.head?_reverse] using hlast
  simp only [trimBy, dropWhile_of_head hhead, dropWhile_of_head hrev, List.reverse_reverse]

theorem trimBy_of_forall {p : Char → Bool} {s : List Char} (h : ∀ c ∈ s, p c = false) :
    trimBy p s = s :=
  trimBy_of_ends (fun c hc => h c (List.mem_of_mem_head? hc))
    (fun c hc => h c (List.mem_of_mem_getLast? hc))

theorem trimBy_append_left {p : Char → Bool} {w : List Char} (s : List Char)
    (hw : ∀ c ∈ w, p c = true) : trimBy p (w ++ s) = trimBy p s := by
  have hdrop : (w ++ s).dropWhile p = s.dropWhile p := by
    induction w with
    | nil => rfl
    | cons c w ih =>
      simp only [List.cons_append, List.dropWhile_cons, hw c List.mem_cons_self, if_true]
      exact ih (fun d hd => hw d (List.mem_cons_of_mem _ hd))
  simp only [trimBy, hdrop]

theorem dropWhile_append_cons {p : Char → Bool} {c : Char} (hc : p c = false) (l r : List Char) :
    (l ++ c :: r).dropWhile p = l.dropWhile p ++ c :: r := by
  rw [List.dropWhile_append]
  split
  · rename_i hl
    rw [List.isEmpty_iff.mp hl, List.dropWhile_cons, hc]
    rfl
  · rfl

/-- Trimming text that has a non-trimmed character `c` after a head `n` that does not start
with a trimmed character only shortens what follows `c`. -/
theorem trimBy_append_cons {p : Char → Bool} {c : Char} (hc : p c = false) {n : List Char}
    (hn : ∀ d ∈ n.head?, p d = false) (v : List Char) :
    trimBy p (n ++ c :: v) = n ++ c :: (v.reverse.dropWhile p).reverse := by
  have hhead : ∀ d ∈ (n ++ c :: v).head?, p d = false := by
    cases n with
    | nil => simpa using hc
    | cons d n => simpa using hn
  simp only [trimBy, dropWhile_of_head hhead, List.reverse_append, List.reverse_cons,
    List.append_assoc, List.singleton_append, dropWhile_append_cons hc, List.reverse_reverse]

theorem reverse_dropWhile_reverse {p : Char → Bool} {v : List Char}
    (hlast : ∀ d ∈ v.getLast?, p d = false) : (v.reverse.dropWhile p).reverse = v := by
  rw [dropWhile_of_head (by simpa [List.head?_reverse] using hlast), List.reverse_reverse]

/-! ### Unsigned decimal numerals -/

def digitsValue (s : List Char) : Nat :=
  s.foldl (fun acc c => 10 * acc + (c.toNat - 48)) 0

def stripPlus : List Char → List Char
  | '+' :: rest => rest
  | s => s

/-- An unsigned decimal numeral with an optional leading `+` whose value is below `bound`. -/
def parseUnsigned (bound : Nat) (s : List Char) : Option Nat :=
  let digits := stripPlus s
  if !digits.isEmpty && digits.all Char.isDigit && decide (digitsValue digits < bound) then
    some (digitsValue digits)
  else none

theorem stripPlus_of_head {s : List Char} (h : ∀ c ∈ s.head?, c ≠ '+') : stripPlus s = s := by
  match s, h with
  | [], _ => rfl
  | c :: rest, h =>
    have hc : c ≠ '+' := h c rfl
    unfold stripPlus
    split
    · rename_i heq
      exact absurd (List.cons.inj heq).1 hc
    · rfl

theorem digitsValue_toDigits (n : Nat) : digitsValue (Nat.toDigits 10 n) = n := by
  induction n using Nat.strong_induction_on with
  | _ n ih =>
    by_cases hn : n < 10
    · rw [Nat.toDigits_of_lt_base hn]
      simp only [digitsValue, List.foldl_cons, List.foldl_nil, Nat.toNat_digitChar_of_lt_ten hn]
      omega
    · have hdiv : n / 10 < n := Nat.div_lt_self (by omega) (by decide)
      have hmod : n % 10 < 10 := Nat.mod_lt n (by decide)
      rw [Nat.toDigits_of_base_le (by decide) (by omega)]
      simp only [digitsValue, List.foldl_append, List.foldl_cons, List.foldl_nil] at ih ⊢
      rw [ih (n / 10) hdiv, Nat.toNat_digitChar_of_lt_ten hmod]
      omega

theorem all_toDigits {p : Char → Bool} (hp : ∀ d < 10, p (Nat.digitChar d) = true) (n : Nat) :
    (Nat.toDigits 10 n).all p = true := by
  induction n using Nat.strong_induction_on with
  | _ n ih =>
    by_cases hn : n < 10
    · rw [Nat.toDigits_of_lt_base hn]
      simp [hp n hn]
    · rw [Nat.toDigits_of_base_le (by decide) (by omega), List.all_append, ih _ (by omega)]
      simp [hp _ (Nat.mod_lt n (show 10 > 0 by decide))]

theorem all_isDigit_toDigits (n : Nat) : (Nat.toDigits 10 n).all Char.isDigit = true :=
  all_toDigits (fun d hd => by simp [Nat.isDigit_digitChar, hd]) n

theorem not_mem_toDigits {c : Char} (hc : c.isDigit = false) (n : Nat) : c ∉ Nat.toDigits 10 n :=
  not_mem_of_all (all_isDigit_toDigits n) hc

/-- The decimal numeral printed for `n` reads back as `n` when `n` is below the bound, and is
refused otherwise. -/
theorem parseUnsigned_toDigits_eq (bound n : Nat) :
    parseUnsigned bound (Nat.toDigits 10 n) = if n < bound then some n else none := by
  have hplus : stripPlus (Nat.toDigits 10 n) = Nat.toDigits 10 n := by
    apply stripPlus_of_head
    intro c hc heq
    exact not_mem_toDigits (c := '+') (by decide) n (heq ▸ List.mem_of_mem_head? hc)
  have hne : (Nat.toDigits 10 n).isEmpty = false :=
    List.isEmpty_eq_false_iff.mpr (List.ne_nil_of_length_pos Nat.length_toDigits_pos)
  simp [parseUnsigned, hplus, hne, all_isDigit_toDigits, digitsValue_toDigits]

theorem parseUnsigned_toDigits {bound n : Nat} (h : n < bound) :
    parseUnsigned bound (Nat.toDigits 10 n) = some n := by
  rw [parseUnsigned_toDigits_eq, if_pos h]

/-! ### Hexadecimal -/

/-- The value of a hexadecimal digit, in either case. -/
def hexDigitValue (c : Char) : Option Nat :=
  if '0' ≤ c ∧ c ≤ '9' then some (c.toNat - '0'.toNat)
  else if 'a' ≤ c ∧ c ≤ 'f' then some (c.toNat - 'a'.toNat + 10)
  else if 'A' ≤ c ∧ c ≤ 'F' then some (c.toNat - 'A'.toNat + 10)
  else none

/-- Bytes from pairs of hexadecimal digits, the high digit first; `none` for an odd count or a
character that is no digit. -/
def hexDecode : List Char → Option (List UInt8)
  | [] => some []
  | [_] => none
  | hi :: lo :: rest =>
    match hexDigitValue hi, hexDigitValue lo, hexDecode rest with
    | some h, some l, some bytes => some (UInt8.ofNat (16 * h + l) :: bytes)
    | _, _, _ => none

theorem hexDigitValue_digitChar : ∀ d < 16, hexDigitValue (Nat.digitChar d) = some d := by
  decide

/-- Two lowercase digits a byte, high digit first, as `hex::encode` writes them, decode back to
the bytes. -/
theorem hexDecode_digits (bytes : List UInt8) :
    hexDecode (bytes.flatMap fun b => [Nat.digitChar (b.toNat / 16), Nat.digitChar (b.toNat % 16)]) =
      some bytes := by
  induction bytes with
  | nil => rfl
  | cons b bytes ih =>
    have hb := b.toNat_lt
    have hbyte : UInt8.ofNat (16 * (b.toNat / 16) + b.toNat % 16) = b := by
      rw [show 16 * (b.toNat / 16) + b.toNat % 16 = b.toNat by omega, UInt8.ofNat_toNat]
    rw [List.flatMap_cons, List.cons_append, List.singleton_append, hexDecode,
      hexDigitValue_digitChar _ (by omega), hexDigitValue_digitChar _ (by omega), ih]
    exact congrArg (some ∘ (· :: bytes)) hbyte

theorem space_not_mem_digits (bytes : List UInt8) :
    ' ' ∉ bytes.flatMap fun b => [Nat.digitChar (b.toNat / 16), Nat.digitChar (b.toNat % 16)] := by
  have hdigit : ∀ d < 16, Nat.digitChar d ≠ ' ' := by decide
  intro hmem
  obtain ⟨b, -, hb⟩ := List.mem_flatMap.mp hmem
  have hlt := b.toNat_lt
  rcases List.mem_pair.mp hb with h | h
  · exact hdigit _ (by omega) h.symm
  · exact hdigit _ (by omega) h.symm

/-- Lines each ended by the separator are the separator's join of the lines and an empty last
piece. -/
theorem flatMap_append_sep (a : Char) (ls : List (List Char)) :
    ls.flatMap (· ++ [a]) = [a].intercalate (ls ++ [[]]) := by
  induction ls with
  | nil => rfl
  | cons l ls ih =>
    rw [List.flatMap_cons, ih, List.cons_append,
      List.intercalate_cons_of_ne_nil (List.append_ne_nil_of_right_ne_nil ls (List.cons_ne_nil _ _)),
      List.append_assoc]

end CharList
