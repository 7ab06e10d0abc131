import DocumentServer.Text.Blank
import DocumentServer.Text.Digit
import Mathlib.Data.List.TakeWhile

/-!
Runs of characters of one kind. A run is taken off up to the first character of another kind, and
trimming leaves the one part of a text that has white space around it and none at its own ends.
-/
namespace DocumentServer.Text

variable {p : Char → Bool} {run rest s core : List Char} {c : Char}

/-! ## The run at the front -/

theorem dropWhile_run (all : ∀ c ∈ run, p c = true) (stops : ∀ c, rest.head? = some c → p c = false) :
    (run ++ rest).dropWhile p = rest := by
  rw [List.dropWhile_append_of_pos all]
  cases rest with
  | nil => rfl
  | cons c tail => exact List.dropWhile_cons_of_neg (by simp [stops c rfl])

theorem takeWhile_run (all : ∀ c ∈ run, p c = true) (stops : ∀ c, rest.head? = some c → p c = false) :
    (run ++ rest).takeWhile p = run := by
  have parts := List.takeWhile_append_dropWhile (p := p) (l := run ++ rest)
  rw [dropWhile_run all stops] at parts
  exact List.append_cancel_right parts

theorem dropWhile_stops (p : Char → Bool) (s : List Char) :
    ∀ c, (s.dropWhile p).head? = some c → p c = false := by
  intro c first
  have stopped := List.head?_dropWhile_not p s
  rwa [first] at stopped

/-- Behind a run comes a character of another kind. -/
theorem head?_dropWhile_eq_some (other : p c = false) :
    (s.dropWhile p).head? = some c ↔ ∃ run rest, (∀ c ∈ run, p c = true) ∧ s = run ++ c :: rest := by
  constructor
  · intro first
    obtain ⟨rest, behind⟩ := List.head?_eq_some_iff.1 first
    refine ⟨s.takeWhile p, rest, fun c => List.mem_takeWhile_imp, ?_⟩
    rw [← behind, List.takeWhile_append_dropWhile]
  · rintro ⟨run, rest, all, rfl⟩
    have stops : ∀ d, (c :: rest).head? = some d → p d = false := by
      rintro d ⟨⟩
      exact other
    rw [dropWhile_run all stops, List.head?_cons]

/-! ## Trimming -/

/-- White space and nothing else. -/
def Blanks (s : List Char) : Prop := ∀ c ∈ s, isBlank c = true

/-- No white space at either end. -/
structure Bare (s : List Char) : Prop where
  front : ∀ c, s.head? = some c → isBlank c = false
  back : ∀ c, s.getLast? = some c → isBlank c = false

/-- What is left of a text without the white space around it. -/
structure Stripped (s core : List Char) : Prop where
  bare : Bare core
  around : ∃ before after, Blanks before ∧ Blanks after ∧ s = before ++ core ++ after

theorem Stripped.trimBlank_eq (stripped : Stripped s core) : trimBlank s = core := by
  obtain ⟨⟨front, back⟩, before, after, hb, ha, rfl⟩ := stripped
  have behind : ∀ c ∈ after.reverse, isBlank c = true := fun c mem => ha c (List.mem_reverse.1 mem)
  rw [← List.head?_reverse] at back
  rw [trimBlank, List.append_assoc]
  cases core with
  | nil =>
      have nothing : (before ++ ([] ++ after)).dropWhile isBlank = [] :=
        List.dropWhile_eq_nil_iff.2 (List.forall_mem_append.2 ⟨hb, ha⟩)
      rw [nothing]
      rfl
  | cons c tail =>
      have kept : (before ++ (c :: tail ++ after)).dropWhile isBlank = c :: tail ++ after :=
        dropWhile_run hb fun d first => front d first
      rw [kept, List.reverse_append, dropWhile_run behind back, List.reverse_reverse]

/-- Trimming takes off the white space at both ends and nothing else. -/
theorem stripped_trimBlank (s : List Char) : Stripped s (trimBlank s) := by
  have front := dropWhile_stops isBlank s
  have whole := List.takeWhile_append_dropWhile (p := isBlank) (l := s)
  have blank : Blanks (s.takeWhile isBlank) := fun c => List.mem_takeWhile_imp
  rw [trimBlank]
  generalize s.takeWhile isBlank = before at *
  generalize s.dropWhile isBlank = t at *
  have back := dropWhile_stops isBlank t.reverse
  have tail := List.takeWhile_append_dropWhile (p := isBlank) (l := t.reverse)
  have blank' : Blanks (t.reverse.takeWhile isBlank) := fun c => List.mem_takeWhile_imp
  generalize t.reverse.takeWhile isBlank = after at *
  generalize t.reverse.dropWhile isBlank = core at *
  obtain rfl : core.reverse ++ after.reverse = t := by rw [← List.reverse_append, tail, List.reverse_reverse]
  refine ⟨⟨fun c first => front c ?_, fun c last => back c ?_⟩, before, after.reverse, blank,
    fun c mem => blank' c (List.mem_reverse.1 mem), ?_⟩
  · rw [List.head?_append, first, Option.some_or]
  · rwa [List.getLast?_reverse] at last
  · rw [List.append_assoc, whole]

/-! ## Digits -/

theorem isDecimalDigit_iff :
    isDecimalDigit c = true ↔ ∃ z ∈ digitZeros, z ≤ c.toNat ∧ c.toNat < z + 10 := by
  simp [isDecimalDigit, digitValue?]

/-- No digit of any script is white space. -/
theorem isBlank_of_isDecimalDigit (digit : isDecimalDigit c = true) : isBlank c = false := by
  have apart : ∀ z ∈ digitZeros, ∀ k < 10, blankRanges.covers (z + k) = false := by decide
  obtain ⟨z, zero, least, most⟩ := isDecimalDigit_iff.1 digit
  have here := apart z zero (c.toNat - z) (by omega)
  rwa [Nat.add_sub_cancel' least] at here

end DocumentServer.Text
