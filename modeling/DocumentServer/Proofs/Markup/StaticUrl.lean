import DocumentServer.Markup.StaticUrl
import DocumentServer.Text.Blank
import Mathlib.Data.List.TakeWhile

/-!
What the rewriting of references does to a text: it puts dots before slashes and changes nothing
else. So it can be followed along a text, part by part.
-/
namespace DocumentServer.Markup

variable {before : Option Char} {s rest : List Char} {c : Char} {n m : Nat}

/-- A reference that gets a dot begins here. -/
def getsDot (before : Option Char) (s : List Char) : Bool :=
  staticPath.isPrefixOf s && !(before.any continuesPath)

/-- The character before what is left after some characters. -/
def lastBefore (before : Option Char) (n : Nat) (s : List Char) : Option Char :=
  (s.take n).getLast?.or before

/-- What becomes of the first characters of a text. -/
def rewritePart (before : Option Char) : Nat → List Char → List Char
  | 0, _ => []
  | _, [] => []
  | n + 1, c :: rest =>
    if getsDot before (c :: rest) then '.' :: c :: rewritePart (some c) n rest
    else c :: rewritePart (some c) n rest

/-- A reference that gets a dot begins among the first characters of a text. -/
def dotsWithin (before : Option Char) : Nat → List Char → Bool
  | 0, _ => false
  | _, [] => false
  | n + 1, c :: rest => getsDot before (c :: rest) || dotsWithin (some c) n rest

theorem rewriteFrom_cons (before : Option Char) (c : Char) (rest : List Char) :
    rewriteFrom before (c :: rest) =
      if getsDot before (c :: rest) then '.' :: c :: rewriteFrom (some c) rest
      else c :: rewriteFrom (some c) rest := rfl

theorem slash_of_getsDot (dotted : getsDot before (c :: rest) = true) : c = '/' := by
  simp only [getsDot, staticPath, Bool.and_eq_true, List.isPrefixOf_cons_cons, beq_iff_eq] at dotted
  exact dotted.1.1.symm

theorem rewriteFrom_plain (plain : getsDot before (c :: rest) = false) :
    rewriteFrom before (c :: rest) = c :: rewriteFrom (some c) rest := by
  rw [rewriteFrom_cons, plain]
  rfl

/-- Other characters than slashes stay as they are. -/
theorem rewriteFrom_other (other : c ≠ '/') (before : Option Char) (rest : List Char) :
    rewriteFrom before (c :: rest) = c :: rewriteFrom (some c) rest := by
  refine rewriteFrom_plain ?_
  rw [← Bool.not_eq_true]
  exact fun dotted => other (slash_of_getsDot dotted)

/-! ## Parts of a text -/

theorem lastBefore_cons (before : Option Char) (n : Nat) (c : Char) (rest : List Char) :
    lastBefore before (n + 1) (c :: rest) = lastBefore (some c) n rest := by
  simp only [lastBefore, List.take_succ_cons, List.getLast?_cons]
  cases (rest.take n).getLast? <;> rfl

/-- A text is rewritten part by part. -/
theorem rewriteFrom_split (before : Option Char) (n : Nat) (s : List Char) :
    rewriteFrom before s =
      rewritePart before n s ++ rewriteFrom (lastBefore before n s) (s.drop n) := by
  fun_induction rewritePart before n s with
  | case1 => rfl
  | case2 => rw [List.drop_nil, rewriteFrom, rewriteFrom, List.nil_append]
  | case3 before n c rest dotted ih =>
      rw [rewriteFrom_cons, if_pos dotted, lastBefore_cons, List.drop_succ_cons, ih]
      rfl
  | case4 before n c rest plain ih =>
      rw [rewriteFrom_cons, if_neg plain, lastBefore_cons, List.drop_succ_cons, ih]
      rfl

theorem rewritePart_of_no_dots (none : dotsWithin before n s = false) :
    rewritePart before n s = s.take n := by
  fun_induction rewritePart before n s with
  | case1 => rfl
  | case2 => exact List.take_nil.symm
  | case3 before n c rest dotted ih => simp [dotsWithin, dotted] at none
  | case4 before n c rest plain ih =>
      rw [dotsWithin, Bool.or_eq_false_iff] at none
      rw [List.take_succ_cons, ih none.2]

theorem no_dots_of_slashless (slashless : '/' ∉ s.take n) (before : Option Char) :
    dotsWithin before n s = false := by
  fun_induction dotsWithin before n s with
  | case1 => rfl
  | case2 => rfl
  | case3 before n c rest ih =>
      rw [List.take_succ_cons, List.mem_cons, not_or] at slashless
      rw [ih slashless.2, Bool.or_false, ← Bool.not_eq_true]
      intro dotted
      exact slashless.1 (slash_of_getsDot dotted).symm

theorem dotsWithin_taken (before : Option Char) (n : Nat) (s : List Char) :
    dotsWithin before (s.length - (s.drop n).length) s = dotsWithin before n s := by
  induction n generalizing before s with
  | zero => simp
  | succ n ih =>
      cases s with
      | nil => rfl
      | cons c rest =>
          have taken : (c :: rest).length - (rest.drop n).length =
              rest.length - (rest.drop n).length + 1 := by
            simp only [List.length_cons, List.length_drop]
            omega
          rw [List.drop_succ_cons, taken, dotsWithin, dotsWithin, ih]

theorem no_dots_of_none (none : dotsWithin before s.length s = false) (n : Nat) :
    dotsWithin before n s = false := by
  induction n generalizing before s with
  | zero => rfl
  | succ n ih =>
      cases s with
      | nil => rfl
      | cons c rest =>
          rw [List.length_cons, dotsWithin, Bool.or_eq_false_iff] at none
          rw [dotsWithin, none.1, ih none.2]
          rfl

/-- Dots change nothing of a text but its length: a property of characters that dots and slashes do
not have is kept by the number of characters that have it. -/
theorem countP_rewritePart {p : Char → Bool} (dot : p '.' = false) (before : Option Char) (n : Nat)
    (s : List Char) : (rewritePart before n s).countP p = (s.take n).countP p := by
  fun_induction rewritePart before n s with
  | case1 => rfl
  | case2 => rw [List.take_nil]
  | case3 before n c rest dotted ih => simp [List.countP_cons, dot, ih]
  | case4 before n c rest plain ih => simp [List.countP_cons, ih]

theorem all_rewritePart {p : Char → Bool} (slash : p '/' = false) (before : Option Char) (n : Nat)
    (s : List Char) : (rewritePart before n s).all p = (s.take n).all p := by
  fun_induction rewritePart before n s with
  | case1 => rfl
  | case2 => rw [List.take_nil]
  | case3 before n c rest dotted ih => simp [slash_of_getsDot dotted, slash]
  | case4 before n c rest plain ih => rw [List.take_succ_cons, List.all_cons, List.all_cons, ih]

theorem getLast?_rewritePart (before : Option Char) (n : Nat) (s : List Char) :
    (rewritePart before n s).getLast? = (s.take n).getLast? := by
  fun_induction rewritePart before n s with
  | case1 => rfl
  | case2 => rw [List.take_nil]
  | case3 before n c rest dotted ih => simp [List.getLast?_cons, ih]
  | case4 before n c rest plain ih =>
      rw [List.take_succ_cons, List.getLast?_cons, List.getLast?_cons, ih]

theorem rewritePart_eq_nil : rewritePart before n s = [] ↔ s.take n = [] := by
  cases n with
  | zero => simp [rewritePart]
  | succ n =>
      cases s with
      | nil => simp [rewritePart]
      | cons c rest =>
          rw [rewritePart]
          split <;> simp

theorem take_rewriteFrom (none : dotsWithin before n s = false) :
    (rewriteFrom before s).take n = s.take n := by
  rw [rewriteFrom_split before n, rewritePart_of_no_dots none, List.take_append, List.length_take]
  by_cases short : n ≤ s.length
  · simp [short, List.take_take]
  · have all : s.drop n = [] := List.drop_eq_nil_iff.2 (by omega)
    simp [all, rewriteFrom, List.take_take]

theorem drop_rewriteFrom (none : dotsWithin before n s = false) :
    (rewriteFrom before s).drop n = rewriteFrom (lastBefore before n s) (s.drop n) := by
  rw [rewriteFrom_split before n, rewritePart_of_no_dots none, List.drop_append, List.length_take]
  by_cases short : n ≤ s.length
  · simp [short]
  · have all : s.drop n = [] := List.drop_eq_nil_iff.2 (by omega)
    simp [all, rewriteFrom]

theorem rewriteFrom_eq_part (before : Option Char) (s : List Char) :
    rewriteFrom before s = rewritePart before s.length s := by
  rw [rewriteFrom_split before s.length s, List.drop_length]
  exact List.append_nil _

theorem rewriteFrom_of_no_dots (none : dotsWithin before s.length s = false) :
    rewriteFrom before s = s := by
  rw [rewriteFrom_eq_part, rewritePart_of_no_dots none, List.take_length]

theorem head?_rewriteFrom (dot : c ≠ '.') (slash : c ≠ '/') (before : Option Char)
    (s : List Char) : (rewriteFrom before s).head? = some c ↔ s.head? = some c := by
  cases s with
  | nil => rfl
  | cons d rest =>
      rw [rewriteFrom_cons]
      split
      · next dotted => simp [slash_of_getsDot dotted, dot.symm, slash.symm]
      · rfl

/-! ## Lengths at the front of a text -/

/-- A length that dots do not change, of a part in which no reference begins. -/
structure Steady (size : List Char → Nat) : Prop where
  same : ∀ before s, size (rewriteFrom before s) = size s
  slashless : ∀ s : List Char, '/' ∉ s.take (size s)

theorem Steady.no_dots {size : List Char → Nat} (steady : Steady size) (before : Option Char)
    (s : List Char) : dotsWithin before (size s) s = false :=
  no_dots_of_slashless (steady.slashless s) before

theorem Steady.drop {size : List Char → Nat} (steady : Steady size) (before : Option Char)
    (s : List Char) :
    (rewriteFrom before s).drop (size s) =
      rewriteFrom (lastBefore before (size s) s) (s.drop (size s)) :=
  drop_rewriteFrom (steady.no_dots before s)

theorem takeWhile_rewriteFrom {p : Char → Bool} (dot : p '.' = false) (slash : p '/' = false)
    (before : Option Char) (s : List Char) : (rewriteFrom before s).takeWhile p = s.takeWhile p := by
  induction s generalizing before with
  | nil => rfl
  | cons c rest ih =>
      rw [rewriteFrom_cons]
      split
      · next dotted => simp [slash_of_getsDot dotted, dot, slash]
      · rw [List.takeWhile_cons, List.takeWhile_cons, ih]

theorem steady_takeWhile {p : Char → Bool} (dot : p '.' = false) (slash : p '/' = false) :
    Steady fun s => (s.takeWhile p).length := by
  constructor
  · intro before s
    rw [takeWhile_rewriteFrom dot slash]
  · intro s inside
    rw [← List.prefix_iff_eq_take.1 (List.takeWhile_prefix p)] at inside
    have holds : p '/' = true := List.mem_takeWhile_imp inside
    rw [slash] at holds
    cases holds

end DocumentServer.Markup
