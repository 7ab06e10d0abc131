import DocumentServer.Files.Path
import Mathlib.Data.List.Basic

/-!
The plainest spelling of a path names the same path: it has the same lead and the same parts.
-/
namespace DocumentServer.Files

variable {text part : String} {parts : List String}

/-- A part of a path as it is named: not empty, no single dot and without a slash. -/
structure IsPart (part : String) : Prop where
  noSlash : '/' ∉ part.toList
  some : part ≠ ""
  other : part ≠ "."

theorem pieces_eq_splitOn (cs : List Char) : Text.pieces '/' cs = cs.splitOn '/' := by
  induction cs with
  | nil => rfl
  | cons c rest ih =>
      rw [Text.pieces, ih]
      unfold List.splitOn
      rw [List.splitOnP_cons_eq_if_modifyHead]
      cases pieces : rest.splitOnP (· == '/') with
      | nil => exact absurd pieces (List.splitOnP_ne_nil _ _)
      | cons piece pieces => rfl

theorem noSlash_of_mem_pieces {cs piece : List Char} (member : piece ∈ Text.pieces '/' cs) :
    '/' ∉ piece := by
  induction cs generalizing piece with
  | nil =>
      rw [List.mem_singleton.1 member]
      exact List.not_mem_nil
  | cons c rest ih =>
      rw [Text.pieces] at member
      split at member
      · rcases List.mem_cons.1 member with rfl | later
        · exact List.not_mem_nil
        · exact ih later
      · next other =>
          have apart : '/' ≠ c := fun same => other (beq_iff_eq.2 same.symm)
          split at member
          · next first pieces same =>
              rw [same] at ih
              rcases List.mem_cons.1 member with rfl | later
              · simpa [apart] using ih (List.mem_cons_self ..)
              · exact ih (List.mem_cons_of_mem _ later)
          · rw [List.mem_singleton.1 member]
            simpa using apart

theorem isPart_of_mem_partsOf (member : part ∈ partsOf text) : IsPart part := by
  obtain ⟨made, proper⟩ := List.mem_filter.1 member
  obtain ⟨piece, split, rfl⟩ := List.mem_map.1 made
  simp only [isNamed, Bool.and_eq_true, bne_iff_ne] at proper
  exact ⟨by rw [String.toList_ofList]; exact noSlash_of_mem_pieces split, proper.1, proper.2⟩

/-- Parts are read back from their text. -/
theorem partsOf_intercalate (named : ∀ part ∈ parts, IsPart part) :
    partsOf (String.intercalate "/" parts) = parts := by
  cases parts with
  | nil => rfl
  | cons first rest =>
      have apart : ∀ piece ∈ (first :: rest).map String.toList, '/' ∉ piece :=
        List.forall_mem_map.2 fun part member => (named part member).noSlash
      have pieces : Text.pieces '/' (String.intercalate "/" (first :: rest)).toList =
          (first :: rest).map String.toList := by
        rw [pieces_eq_splitOn, String.toList_intercalate]
        exact List.splitOn_intercalate '/' apart (by simp)
      have same : ((first :: rest).map String.toList).map String.ofList = first :: rest := by
        simp [Function.comp_def]
      rw [partsOf, pieces, same, List.filter_eq_self]
      intro part member
      simp [isNamed, (named part member).some, (named part member).other]

theorem partsOf_slash (text : String) : partsOf ("/" ++ text) = partsOf text := by
  rw [partsOf, String.toList_append]
  rfl

/-- The text of parts does not begin with a slash. -/
theorem head?_intercalate (named : ∀ part ∈ parts, IsPart part) :
    (String.intercalate "/" parts).toList.head? ≠ some '/' := by
  cases parts with
  | nil => simp
  | cons first rest =>
      have here := named first (List.mem_cons_self ..)
      rw [String.toList_intercalate, List.map_cons]
      cases letters : first.toList with
      | nil => exact absurd (String.toList_eq_nil_iff.1 letters) here.some
      | cons c cs =>
          have other : c ≠ '/' := by
            rintro rfl
            exact here.noSlash (by simp [letters])
          cases rest <;> simpa [List.intercalate] using other

theorem leadOf_of_head? (other : text.toList.head? ≠ some '/') : leadOf text = "" := by
  unfold leadOf
  split
  all_goals simp_all

theorem leadOf_slash (other : text.toList.head? ≠ some '/') : leadOf ("/" ++ text) = "/" := by
  have behind : ("/" ++ text).toList = '/' :: text.toList := String.toList_append
  rw [leadOf, behind]
  cases letters : text.toList with
  | nil => rfl
  | cons c cs =>
      rw [letters] at other
      split <;> simp_all

theorem leadOf_slashes (other : text.toList.head? ≠ some '/') : leadOf ("//" ++ text) = "//" := by
  have behind : ("//" ++ text).toList = '/' :: '/' :: text.toList := String.toList_append
  rw [leadOf, behind]
  cases letters : text.toList with
  | nil => rfl
  | cons c cs =>
      rw [letters] at other
      split <;> grind

theorem leadOf_cases (text : String) : leadOf text = "" ∨ leadOf text = "/" ∨ leadOf text = "//" := by
  unfold leadOf
  split <;> simp

/-- The plainest spelling of a path names the path itself. -/
theorem plainText_names (text : String) :
    leadOf (plainText text) = leadOf text ∧ partsOf (plainText text) = partsOf text := by
  have named : ∀ part ∈ partsOf text, IsPart part := fun part => isPart_of_mem_partsOf
  have front := head?_intercalate named
  have back := partsOf_intercalate named
  unfold plainText Place.ofText Place.text
  dsimp only
  rcases leadOf_cases text with lead | lead | lead
  · rw [lead, if_pos (by decide), relativeText]
    split
    · next none =>
        rw [List.isEmpty_iff.1 none]
        exact ⟨rfl, rfl⟩
    · exact ⟨leadOf_of_head? front, back⟩
  · rw [lead, if_neg (by decide)]
    exact ⟨leadOf_slash front, by rw [partsOf_slash, back]⟩
  · rw [lead, if_neg (by decide)]
    refine ⟨leadOf_slashes front, ?_⟩
    rw [show "//" = "/" ++ "/" from rfl, String.append_assoc, partsOf_slash, partsOf_slash, back]

end DocumentServer.Files
