import DocumentServer.Page.PrintOptions
import Mathlib.Data.List.Basic

/-!
Pages read again. A size and an orientation that were accepted once are accepted whenever their texts
are read, and stand for the same page; so are the ones that a request and the defaults make together.
The options for the browser name either a format or two lengths, as the text of the size says.
-/
namespace DocumentServer.Page

variable {text : String} {d : Dimensions}

/-! ## Sizes -/

/-- No standard name is a width and a height. -/
theorem dimensions?_of_isStandard (standard : isStandard text = true) : dimensions? text = none := by
  have none_parsed : ∀ name ∈ standardSizes, dimensions? name = none := by decide
  exact none_parsed text (by simpa [isStandard] using standard)

theorem isStandard_of_dimensions? (parsed : dimensions? text = some d) : isStandard text = false := by
  rw [← Bool.not_eq_true]
  intro standard
  rw [dimensions?_of_isStandard standard] at parsed
  cases parsed

namespace Size

theorem read_standard (standard : isStandard text = true) :
    read text = .ok (.standard text standard) := by
  rw [read, dif_pos standard]

theorem read_custom (parsed : dimensions? text = some d) :
    read text = .ok (.custom text d parsed) := by
  have other := isStandard_of_dimensions? parsed
  rw [read, dif_neg (by simp [other])]
  split
  · next found same =>
      rw [parsed] at same
      cases same
      rfl
  · next none =>
      rw [parsed] at none
      cases none

/-- A size is what its text is read as. -/
theorem read_text (size : Size) : read size.text = .ok size := by
  cases size with
  | standard name known => exact read_standard known
  | custom given d parsed => exact read_custom parsed

/-- A size keeps the text that it was read from. -/
theorem text_of_read {size : Size} (accepted : read text = .ok size) : size.text = text := by
  unfold read at accepted
  split at accepted
  · cases accepted
    rfl
  · split at accepted
    · cases accepted
      rfl
    · cases accepted

/-- The paper of a standard size is its format, that of any other its width and its height. -/
theorem paper_cases (size : Size) :
    isStandard size.text = true ∧ size.paper = .format size.text ∨
      isStandard size.text = false ∧
        ∃ d, parseCustom size.text = .ok d ∧ size.paper = .lengths d.width d.height := by
  cases size with
  | standard name known => exact .inl ⟨known, rfl⟩
  | custom given d parsed =>
      refine .inr ⟨isStandard_of_dimensions? parsed, d, ?_, rfl⟩
      simp only [Size.text, parseCustom, parsed]

end Size

/-! ## Configurations -/

@[simp] theorem Orientation.read_name (o : Orientation) : Orientation.read o.name = .ok o := by
  cases o <;> rfl

theorem Orientation.name_eq_landscape (o : Orientation) :
    (o.name == "landscape") = (o == .landscape) := by
  cases o <;> rfl

namespace Config

/-- A configuration is what its texts are read as. -/
theorem read_texts (c : Config) : read c.size.text c.orientation.name = .ok c := by
  rw [read, Size.read_text, Orientation.read_name]
  rfl

/-- What was accepted on its own is accepted in every combination, and nothing else comes of it. -/
theorem resolve_accepted (defaults : Config) (size : Option Size)
    (orientation : Option Orientation) :
    resolve defaults (size.map Size.text) (orientation.map Orientation.name) =
      .ok { size := size.getD defaults.size
            orientation := orientation.getD defaults.orientation } := by
  have sizes : (size.map Size.text).getD defaults.size.text = (size.getD defaults.size).text := by
    cases size <;> rfl
  have orientations : (orientation.map Orientation.name).getD defaults.orientation.name =
      (orientation.getD defaults.orientation).name := by
    cases orientation <;> rfl
  rw [resolve, sizes, orientations]
  exact read_texts { size := size.getD defaults.size
                     orientation := orientation.getD defaults.orientation }

end Config

/-! ## Options -/

/-- The options that a browser receives for a page, told by its texts. -/
theorem toJson_printOptions (c : Config) :
    let landscape := Json.bool (c.orientation.name == "landscape")
    isStandard c.size.text = true ∧
        c.printOptions.toJson = .object [("print_background", .bool true),
          ("format", .text c.size.text), ("landscape", landscape)] ∨
      isStandard c.size.text = false ∧ ∃ d, parseCustom c.size.text = .ok d ∧
        c.printOptions.toJson = .object [("print_background", .bool true),
          ("width", .text d.width), ("height", .text d.height), ("landscape", landscape)] := by
  intro landscape
  have turned : landscape = .bool c.isLandscape := by
    rw [Config.isLandscape, ← Orientation.name_eq_landscape]
  rw [turned]
  rcases c.size.paper_cases with ⟨standard, paper⟩ | ⟨other, d, parsed, paper⟩
  · refine .inl ⟨standard, ?_⟩
    simp [PrintOptions.toJson, Config.printOptions, paper]
  · refine .inr ⟨other, d, parsed, ?_⟩
    simp [PrintOptions.toJson, Config.printOptions, paper]

end DocumentServer.Page
