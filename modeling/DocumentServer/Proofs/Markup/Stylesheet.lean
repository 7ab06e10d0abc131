import DocumentServer.Markup.Stylesheet
import DocumentServer.Proofs.Text.Runs
import Mathlib

/-!
Where the styles of a page go. The closing head tags of a page are told by a grammar, and every page has one
split into what stands before its styles and what stands behind them: at its first closing head tag, or at its
very beginning if it has none.
-/
namespace DocumentServer.Markup
open Text

variable {word s before after : List Char} {c letter : Char}

/-! ## Closing head tags, and the split before the first one -/

/-- A letter in either case. -/
def EitherCase (letter c : Char) : Prop := c = letter ∨ c = letter.toUpper

/-- A closing head tag: its letters are of any case, and white space may stand before its end. -/
inductive IsHeadClose : List Char → Prop
  | tag {front gap} : List.Forall₂ EitherCase ['<', '/', 'h', 'e', 'a', 'd'] front → Blanks gap →
      IsHeadClose (front ++ gap ++ ['>'])

/-- A closing head tag stands at the front of a text. -/
def OpensWithClose (s : List Char) : Prop := ∃ tag, IsHeadClose tag ∧ tag <+: s

/-- A text in two parts, of which the second one begins with the first closing head tag of the whole. Where
there is no such tag, the first part is empty. -/
inductive StyleSplit : List Char → List Char → Prop
  | tagged {front behind} : OpensWithClose behind →
      (∀ n < front.length, ¬OpensWithClose ((front ++ behind).drop n)) → StyleSplit front behind
  | untagged {page} : (∀ n, ¬OpensWithClose (page.drop n)) → StyleSplit [] page

/-! ## Reading a tag -/

theorem eitherCase_iff (small : letter.isUpper = false) : EitherCase letter c ↔ c.toLower = letter := by
  have kept : letter.toLower = letter := Char.toLower_eq_of_not_isUpper (by simp [small])
  constructor
  · rintro (rfl | rfl)
    · exact kept
    · rw [Char.toLower_toUpper_eq_toLower, kept]
  · rintro rfl
    by_cases capital : c.isUpper = true
    · have upper : c.toUpper = c := Char.toUpper_eq_of_not_isLower (Char.not_isLower_of_isUpper capital)
      exact .inr (by rw [Char.toUpper_toLower_eq_toUpper, upper])
    · exact .inl (Char.toLower_eq_of_not_isUpper capital).symm

theorem map_toLower_eq_iff {front : List Char} (small : ∀ c ∈ word, c.isUpper = false) :
    front.map Char.toLower = word ↔ List.Forall₂ EitherCase word front := by
  induction word generalizing front with
  | nil => simp
  | cons letter later ih =>
      obtain ⟨here, behind⟩ := List.forall_mem_cons.1 small
      cases front with
      | nil => simp
      | cons c rest =>
          rw [List.map_cons, List.cons.injEq, List.forall₂_cons, eitherCase_iff here, ih behind]

theorem beginsWith_iff (small : ∀ c ∈ word, c.isUpper = false) :
    beginsWith word s = true ↔ ∃ front rest, List.Forall₂ EitherCase word front ∧ s = front ++ rest := by
  rw [beginsWith, Bool.and_eq_true, beq_iff_eq, map_toLower_eq_iff small, decide_eq_true_eq]
  constructor
  · rintro ⟨-, spelled⟩
    exact ⟨_, _, spelled, (List.take_append_drop _ s).symm⟩
  · rintro ⟨front, rest, spelled, rfl⟩
    have long := spelled.length_eq
    rw [long, List.take_left, List.length_append]
    exact ⟨Nat.le_add_right _ _, spelled⟩

theorem beginsWithHeadClose_iff : beginsWithHeadClose s = true ↔ OpensWithClose s := by
  have small : ∀ c ∈ ['<', '/', 'h', 'e', 'a', 'd'], c.isUpper = false := by simp
  have solid : isBlank '>' = false := by decide
  rw [beginsWithHeadClose, Bool.and_eq_true, beginsWith_iff small, beq_iff_eq]
  constructor
  · rintro ⟨⟨front, rest, spelled, rfl⟩, closed⟩
    have six : front.length = 6 := spelled.length_eq.symm
    rw [← six, List.drop_left] at closed
    obtain ⟨gap, behind, blank, rfl⟩ := (head?_dropWhile_eq_some solid).1 closed
    refine ⟨_, .tag spelled blank, behind, ?_⟩
    simp only [List.append_assoc, List.singleton_append]
  · rintro ⟨_, @⟨front, gap, spelled, blank⟩, behind, rfl⟩
    have six : front.length = 6 := spelled.length_eq.symm
    simp only [List.append_assoc, List.singleton_append]
    refine ⟨⟨front, _, spelled, rfl⟩, ?_⟩
    rw [← six, List.drop_left]
    exact (head?_dropWhile_eq_some solid).2 ⟨gap, behind, blank, rfl⟩

theorem not_opensWithClose_nil : ¬OpensWithClose [] := by
  rw [← beginsWithHeadClose_iff]
  decide

/-! ## The first closing head tag -/

theorem splitAtHeadClose?_eq_none : splitAtHeadClose? s = none ↔ ∀ n, ¬OpensWithClose (s.drop n) := by
  induction s with
  | nil => simp [splitAtHeadClose?, not_opensWithClose_nil]
  | cons c rest ih =>
      rw [splitAtHeadClose?, ← Nat.and_forall_add_one]
      simp only [List.drop_zero, List.drop_succ_cons, ← ih]
      split
      · next opens => simp [beginsWithHeadClose_iff.1 opens]
      · next other => simp [mt beginsWithHeadClose_iff.2 other]

theorem splitAtHeadClose?_sound (found : splitAtHeadClose? s = some (before, after)) :
    s = before ++ after ∧ OpensWithClose after ∧ ∀ n < before.length, ¬OpensWithClose (s.drop n) := by
  induction s generalizing before with
  | nil => cases found
  | cons c rest ih =>
      rw [splitAtHeadClose?] at found
      split at found
      · next opens =>
          cases found
          exact ⟨rfl, beginsWithHeadClose_iff.1 opens, by simp⟩
      · next other =>
          obtain ⟨⟨front, behind⟩, later, same⟩ := Option.map_eq_some_iff.1 found
          cases same
          obtain ⟨rfl, opens, first⟩ := ih later
          refine ⟨rfl, opens, fun n inside => ?_⟩
          cases n with
          | zero => exact mt beginsWithHeadClose_iff.2 other
          | succ n => exact first n (Nat.lt_of_succ_lt_succ inside)

theorem splitAtHeadClose?_complete (opens : OpensWithClose after)
    (first : ∀ n < before.length, ¬OpensWithClose ((before ++ after).drop n)) :
    splitAtHeadClose? (before ++ after) = some (before, after) := by
  induction before with
  | nil =>
      cases after with
      | nil => exact absurd opens not_opensWithClose_nil
      | cons c rest => exact if_pos (beginsWithHeadClose_iff.2 opens)
  | cons c front ih =>
      have other : ¬beginsWithHeadClose (c :: (front ++ after)) = true :=
        mt beginsWithHeadClose_iff.1 (first 0 (Nat.succ_pos _))
      have later := ih fun n inside => first (n + 1) (Nat.succ_lt_succ inside)
      rw [List.cons_append, splitAtHeadClose?, if_neg other, later]
      rfl

/-! ## The split -/

/-- Where the styles of a page go. -/
def splitForStyle (s : List Char) : List Char × List Char := (splitAtHeadClose? s).getD ([], s)

theorem insertStyle_eq (s css : List Char) :
    insertStyle s css = (splitForStyle s).1 ++ styleBlock css ++ (splitForStyle s).2 := by
  rw [insertStyle, splitForStyle]
  cases splitAtHeadClose? s <;> rfl

theorem append_splitForStyle (s : List Char) : (splitForStyle s).1 ++ (splitForStyle s).2 = s := by
  rw [splitForStyle]
  cases found : splitAtHeadClose? s with
  | none => rfl
  | some parts => exact (splitAtHeadClose?_sound found).1.symm

theorem styleSplit_iff : StyleSplit before after ↔ splitForStyle (before ++ after) = (before, after) := by
  constructor
  · rintro (⟨opens, first⟩ | ⟨none⟩)
    · rw [splitForStyle, splitAtHeadClose?_complete opens first]
      rfl
    · rw [List.nil_append, splitForStyle, splitAtHeadClose?_eq_none.2 none]
      rfl
  · intro split
    rw [splitForStyle] at split
    cases found : splitAtHeadClose? (before ++ after) with
    | none =>
        rw [found] at split
        cases split
        exact .untagged (splitAtHeadClose?_eq_none.1 found)
    | some parts =>
        rw [found] at split
        cases split
        obtain ⟨-, opens, first⟩ := splitAtHeadClose?_sound found
        exact .tagged opens first

/-! ## Pages -/

/-- Every page has one split for its styles. -/
theorem existsUnique_styleSplit (markup : String) : ∃! split : String × String,
    split.1 ++ split.2 = markup ∧ StyleSplit split.1.toList split.2.toList := by
  have whole := append_splitForStyle markup.toList
  refine ⟨(.ofList (splitForStyle markup.toList).1, .ofList (splitForStyle markup.toList).2), ⟨?_, ?_⟩, ?_⟩
  · rw [← String.ofList_append, whole, String.ofList_toList]
  · rw [String.toList_ofList, String.toList_ofList, styleSplit_iff, whole]
  · rintro ⟨before, after⟩ ⟨rfl, split⟩
    rw [styleSplit_iff, ← String.toList_append] at split
    rw [split, String.ofList_toList, String.ofList_toList]

/-- Styles are put in where the page is split for them. -/
theorem injectStylesheet_append {before after css : String} (given : css ≠ "")
    (split : StyleSplit before.toList after.toList) :
    injectStylesheet (before ++ after) (some css) =
      before ++ "<style>" ++ css ++ "</style>" ++ after := by
  have styled : injectStylesheet (before ++ after) (some css) =
      .ofList (insertStyle (before ++ after).toList css.toList) :=
    if_neg (by simpa using given)
  -- said of any two marks: the literal ones would be taken apart into characters
  have joined : ∀ opening closing : String,
      .ofList (before.toList ++ (opening.toList ++ css.toList ++ closing.toList) ++ after.toList) =
        before ++ opening ++ css ++ closing ++ after := by
    intro opening closing
    apply String.toList_inj.1
    simp only [String.toList_ofList, String.toList_append, List.append_assoc]
  rw [styleSplit_iff] at split
  rw [styled, String.toList_append, insertStyle_eq, split]
  exact joined _ _

end DocumentServer.Markup
