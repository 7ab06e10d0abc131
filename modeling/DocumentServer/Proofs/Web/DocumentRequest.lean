import DocumentServer.Proofs.Settings.Fields
import DocumentServer.Web.DocumentRequest

/-!
What accepted requests hold, and the page that a document is printed on. Each of size and orientation
is the one that the request gives, or else the one of the settings, and what was accepted there is
accepted by everything that reads it later.
-/
namespace DocumentServer.DocumentRequest
open Validation

variable {entries : List (Value × Value)} {name : String} {α : Type} {default a : α}
  {read : Value → Except Problem α} {request : DocumentRequest} {otherwise : Problem} {v : Value}

/-! ## Fields -/

theorem readGiven_quiet (quiet : readGiven name read default v = ([], a)) : read v = .ok a := by
  unfold readGiven at quiet
  split at quiet
  · next accepted =>
      cases quiet
      exact accepted
  · cases quiet

theorem readField_quiet (quiet : readField entries name read default = ([], a)) :
    fieldOf? name entries = none ∧ a = default ∨
      ∃ v, fieldOf? name entries = some v ∧ read v = .ok a := by
  unfold readField at quiet
  split at quiet
  · next v given => exact .inr ⟨v, given, readGiven_quiet quiet⟩
  · next absent =>
      cases quiet
      exact .inl ⟨absent, rfl⟩

/-- A request holds what its entries were read as, and nothing stands beside them. -/
structure ReadFrom (entries : List (Value × Value)) (request : DocumentRequest) : Prop where
  props : readRequired entries "props" readObject [] = ([], request.props)
  format : readField entries "format" readFormat .pdf = ([], request.format)
  size : readField entries "size" (Settings.readOptional Settings.readSize) none =
    ([], request.size)
  orientation : readField entries "orientation"
    (Settings.readOptional Settings.readOrientation) none = ([], request.orientation)
  plain : extras entries = []

theorem readFrom_of_ofEntries (accepted : ofEntries entries = .ok request) :
    ReadFrom entries request := by
  unfold ofEntries at accepted
  dsimp only at accepted
  split at accepted
  · next quiet =>
      simp only [List.append_eq_nil_iff, and_assoc] at quiet
      obtain ⟨q₁, q₂, q₃, q₄, plain⟩ := quiet
      cases accepted
      exact ⟨Prod.ext q₁ rfl, Prod.ext q₂ rfl, Prod.ext q₃ rfl, Prod.ext q₄ rfl, plain⟩
  · cases accepted

/-- Only a mapping is accepted. -/
theorem readFrom_of_read (accepted : DocumentRequest.read otherwise v = .ok request) :
    ∃ entries, v = .dict entries ∧ ReadFrom entries request := by
  unfold DocumentRequest.read at accepted
  split at accepted
  · exact ⟨_, rfl, readFrom_of_ofEntries accepted⟩
  · cases accepted

/-! ## The page -/

/-- The text that a request gives for a field. Nothing is no text. -/
def givenText? (name : String) : Value → Option String
  | .dict entries => (fieldOf? name entries).bind Value.text?
  | _ => none

variable {sources : SettingSources} {settings : Settings}

theorem readOptional_quiet {found : Option α} {text : α → String}
    (keeps : ∀ {v a}, read v = .ok a → v.text? = some (text a))
    (quiet : readField entries name (Settings.readOptional read) none = ([], found)) :
    found.map text = givenText? name (.dict entries) := by
  rcases readField_quiet quiet with ⟨absent, rfl⟩ | ⟨v, given, accepted⟩
  · simp [givenText?, absent]
  · rcases Settings.readOptional_ok accepted with ⟨rfl, rfl⟩ | ⟨b, rfl, made⟩
    · simp [givenText?, given, Value.text?]
    · simp [givenText?, given, keeps made]

/-- The page of a request is the one that its texts, and those of the settings, are read as. -/
theorem pageConfig_accepted (request : DocumentRequest) (defaults : Page.Config) :
    request.pageConfig defaults =
      .ok { size := request.size.getD defaults.size
            orientation := request.orientation.getD defaults.orientation } :=
  Page.Config.resolve_accepted defaults request.size request.orientation

/-- Whatever settings and request were accepted, the page of both is: its size and its orientation are
those of the request where it gives them and those of the settings elsewhere, and the options for the
browser hold a format if the size is a standard one and two lengths if it is not. -/
theorem page_of_request_and_settings (configured : Settings.read sources = .ok settings)
    (asked : DocumentRequest.read otherwise v = .ok request) :
    let defaultSize := (sources.givenText? (.plain "default_page_size")).getD "A4"
    let defaultOrientation := (sources.givenText? (.plain "default_orientation")).getD "portrait"
    let size := (givenText? "size" v).getD defaultSize
    let orientation := (givenText? "orientation" v).getD defaultOrientation
    let landscape := Json.bool (orientation == "landscape")
    Page.Config.read defaultSize defaultOrientation = .ok settings.page ∧
      ∃ config, request.pageConfig settings.page = .ok config ∧
        config.size.text = size ∧ config.orientation.name = orientation ∧
        (Page.isStandard size = true ∧
            config.printOptions.toJson = .object [("print_background", .bool true),
              ("format", .text size), ("landscape", landscape)] ∨
          Page.isStandard size = false ∧ ∃ d, Page.parseCustom size = .ok d ∧
            config.printOptions.toJson = .object [("print_background", .bool true),
              ("width", .text d.width), ("height", .text d.height), ("landscape", landscape)]) := by
  intro defaultSize defaultOrientation size orientation landscape
  have fields := Settings.readFrom_of_read configured
  obtain ⟨entries, rfl, held⟩ := readFrom_of_read asked
  have sizeOfSettings : settings.page.size.text = defaultSize :=
    Settings.text_of_field Page.Size.text Settings.text?_of_readSize fields.size
  have orientationOfSettings : settings.page.orientation.name = defaultOrientation :=
    Settings.text_of_field Page.Orientation.name Settings.text?_of_readOrientation
      fields.orientation
  have sizeOfRequest : request.size.map Page.Size.text = givenText? "size" (.dict entries) :=
    readOptional_quiet Settings.text?_of_readSize held.size
  have orientationOfRequest :
      request.orientation.map Page.Orientation.name = givenText? "orientation" (.dict entries) :=
    readOptional_quiet Settings.text?_of_readOrientation held.orientation
  refine ⟨?_, _, pageConfig_accepted request settings.page, ?_⟩
  · rw [← sizeOfSettings, ← orientationOfSettings]
    exact settings.page.read_texts
  have sizeText : (request.size.getD settings.page.size).text = size := by
    simp only [size, ← sizeOfRequest, ← sizeOfSettings]
    cases request.size <;> rfl
  have orientationName : (request.orientation.getD settings.page.orientation).name = orientation := by
    simp only [orientation, ← orientationOfRequest, ← orientationOfSettings]
    cases request.orientation <;> rfl
  refine ⟨sizeText, orientationName, ?_⟩
  have options := Page.toJson_printOptions
    { size := request.size.getD settings.page.size
      orientation := request.orientation.getD settings.page.orientation }
  dsimp only at options
  rwa [sizeText, orientationName] at options

/-- Sources that give a size of their own. -/
def letterSources : SettingSources where
  arguments := []
  environment := [("HTMDOCS_DEFAULT_PAGE_SIZE", "8.5in 11in")]
  envFile := none

def letterSettings : Settings where
  page :=
    { size := .custom "8.5in 11in" ⟨"8.5in", "11in"⟩ (by decide), orientation := .portrait }

/-- Asks for a document on a page that is turned. -/
def turningRequest : Value :=
  .dict [(.text "props", .dict []), (.text "orientation", .text "landscape")]

theorem turnedLetter_page :
    Settings.read letterSources = .ok letterSettings ∧
      DocumentRequest.read .notFields turningRequest =
        .ok { props := [], orientation := some .landscape } ∧
      ∃ config,
        DocumentRequest.pageConfig { props := [], orientation := some .landscape }
          letterSettings.page = .ok config ∧
        config.size.text = "8.5in 11in" ∧ config.orientation.name = "landscape" ∧
        config.printOptions.toJson = .object [("print_background", .bool true),
          ("width", .text "8.5in"), ("height", .text "11in"), ("landscape", .bool true)] := by
  have configured : Settings.read letterSources = .ok letterSettings := rfl
  have asked : DocumentRequest.read .notFields turningRequest =
      .ok { props := [], orientation := some .landscape } := rfl
  obtain ⟨_, config, made, size, orientation, options⟩ :=
    page_of_request_and_settings configured asked
  refine ⟨configured, asked, config, made, size, orientation, ?_⟩
  rcases options with ⟨standard, _⟩ | ⟨_, d, parsed, options⟩
  · exact absurd (show Page.isStandard "8.5in 11in" = true from standard) (by decide)
  · have read : Page.parseCustom "8.5in 11in" = .ok d := parsed
    have same : Page.parseCustom "8.5in 11in" = .ok ⟨"8.5in", "11in"⟩ := rfl
    rw [same] at read
    cases read
    exact options

end DocumentServer.DocumentRequest
