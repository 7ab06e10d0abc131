import DocumentServer.Proofs.Fault
import DocumentServer.Proofs.Files.Spelling
import DocumentServer.Proofs.Page.Config
import DocumentServer.Proofs.Validation.Scalar
import DocumentServer.Settings.Basic
import Mathlib.Data.List.Basic

/-!
What accepted settings hold: each field is what its source was read as, or its default where no source
gives it. Nothing is accepted while one field is not.
-/
namespace DocumentServer

/-- The text that the sources of settings give for one of them. -/
def SettingSources.givenText? [SettingLibrary] (sources : SettingSources) (setting : SettingName) :
    Option String :=
  (sources.find? setting).bind (·.value.text?)

namespace Settings
open Validation

variable {sources : SettingSources} {setting : SettingName} {α : Type} {default : α}
  {read : Value → Except Problem α} {a : α} {v : Value}

/-! ## One field -/

/-- A field without issues has been read from what is given for it, or nothing is given. -/
theorem field_quiet [SettingLibrary] (quiet : field sources setting read default = ([], a)) :
    sources.find? setting = none ∧ a = default ∨
      ∃ given, sources.find? setting = some given ∧ read given.value = .ok a := by
  unfold field at quiet
  cases found : sources.find? setting with
  | none =>
      rw [found] at quiet
      cases quiet
      exact .inl ⟨rfl, rfl⟩
  | some given =>
      rw [found] at quiet
      dsimp only at quiet
      split at quiet
      · next b accepted =>
          cases quiet
          exact .inr ⟨given, rfl, accepted⟩
      · cases quiet

theorem readOptional_ok {found : Option α} (accepted : readOptional read v = .ok found) :
    v = .none ∧ found = none ∨ ∃ b, found = some b ∧ read v = .ok b := by
  unfold readOptional at accepted
  split at accepted
  · cases accepted
    exact .inl ⟨rfl, rfl⟩
  · cases made : read v with
    | error problem =>
        rw [made] at accepted
        cases accepted
    | ok b =>
        rw [made] at accepted
        cases accepted
        exact .inr ⟨b, rfl, rfl⟩

/-! ## All fields -/

/-- Settings hold what their sources were read as, field by field. -/
structure ReadFrom [SettingLibrary] (sources : SettingSources) (settings : Settings) : Prop where
  templatesRoot : field sources (.plain "templates_root") readPath "../templates" =
    ([], settings.templatesRoot)
  documentsDir : field sources (.plain "documents_dir") (readOptional readPath) none =
    ([], settings.documentsDir)
  apiKey : field sources (.plain "api_key") (readOptional readText) none = ([], settings.apiKey)
  host : field sources (.plain "host") readText "0.0.0.0" = ([], settings.host)
  port : field sources .port readWhole 4000 = ([], settings.port)
  size : field sources (.plain "default_page_size") readSize .a4 = ([], settings.page.size)
  orientation : field sources (.plain "default_orientation") readOrientation .portrait =
    ([], settings.page.orientation)
  downloadSeconds : field sources (.plain "download_ttl_seconds") readPositive (positive 300) =
    ([], ⟨settings.downloadSeconds, settings.downloadSeconds_pos⟩)
  rewritesStaticUrls : field sources (.plain "rewrite_static_urls") readFlag false =
    ([], settings.rewritesStaticUrls)
  logLevel : field sources (.plain "log_level") readText "INFO" = ([], settings.logLevel)

/-- Settings are accepted only if no field has an issue. -/
theorem readFrom_of_read [SettingLibrary] {settings : Settings}
    (accepted : Settings.read sources = .ok settings) : ReadFrom sources settings := by
  unfold Settings.read at accepted
  dsimp only at accepted
  split at accepted
  · next quiet =>
      simp only [List.append_eq_nil_iff, and_assoc] at quiet
      obtain ⟨q₁, q₂, q₃, q₄, q₅, q₆, q₇, q₈, q₉, q₁₀⟩ := quiet
      cases accepted
      exact ⟨Prod.ext q₁ rfl, Prod.ext q₂ rfl, Prod.ext q₃ rfl, Prod.ext q₄ rfl, Prod.ext q₅ rfl,
        Prod.ext q₆ rfl, Prod.ext q₇ rfl, Prod.ext q₈ rfl, Prod.ext q₉ rfl, Prod.ext q₁₀ rfl⟩
  · cases accepted

/-! ## Pages -/

theorem text?_of_readText {text : String} (accepted : readText v = .ok text) :
    v.text? = some text := by
  unfold readText at accepted
  split at accepted
  · next found =>
      cases accepted
      exact found
  · cases accepted

theorem text?_of_readChoice {choices : List String} {choice : String}
    (accepted : readChoice choices v = .ok choice) : v.text? = some choice ∧ choice ∈ choices := by
  unfold readChoice at accepted
  split at accepted
  · next found =>
      split at accepted
      · next known =>
          cases accepted
          exact ⟨found, by simpa using known⟩
      · cases accepted
  · cases accepted

/-- A size that is accepted is a text, and keeps it. -/
theorem text?_of_readSize {size : Page.Size} (accepted : readSize v = .ok size) :
    v.text? = some size.text := by
  obtain ⟨text, given, made⟩ := bind_eq_ok.1 accepted
  rw [Page.Size.text_of_read (mapError_eq_ok.1 made)]
  exact text?_of_readText given

/-- An orientation that is accepted is given by its name. -/
theorem text?_of_readOrientation {o : Page.Orientation} (accepted : readOrientation v = .ok o) :
    v.text? = some o.name := by
  obtain ⟨name, chosen, made⟩ := bind_eq_ok.1 accepted
  obtain ⟨given, known⟩ := text?_of_readChoice chosen
  rw [given]
  cases made
  simp only [orientationNames, List.mem_cons, List.not_mem_nil, or_false] at known
  rcases known with rfl | rfl <;> rfl

/-- What a field that is given as a text keeps of it. -/
theorem text_of_field [SettingLibrary] (text : α → String)
    (keeps : ∀ {v a}, read v = .ok a → v.text? = some (text a))
    (quiet : field sources setting read default = ([], a)) :
    text a = (sources.givenText? setting).getD (text default) := by
  rcases field_quiet quiet with ⟨absent, rfl⟩ | ⟨given, found, accepted⟩
  · simp [SettingSources.givenText?, absent]
  · simp [SettingSources.givenText?, found, keeps accepted]

/-! ## Meaning -/

/-- A value is a text. -/
def IsText (v : Value) (text : String) : Prop := v.text? = some text

/-- A value names a path: the same parts with the same lead, in whatever spelling. -/
def NamesPath (v : Value) (path : String) : Prop :=
  ∃ text, v.text? = some text ∧ Files.leadOf path = Files.leadOf text ∧
    Files.partsOf path = Files.partsOf text

/-- A value that may be nothing, which is then what it stands for. -/
def OrNothing (means : Value → α → Prop) (v : Value) : Option α → Prop
  | none => v = .none
  | some a => means v a

theorem namesPath_of_readPath {path : String} (accepted : readPath v = .ok path) : NamesPath v path := by
  unfold readPath at accepted
  split at accepted
  · next text given =>
      cases accepted
      exact ⟨text, given, Files.plainText_names text⟩
  · cases accepted

theorem orNothing_of_readOptional {means : Value → α → Prop} {found : Option α}
    (sound : ∀ {v a}, read v = .ok a → means v a) (accepted : readOptional read v = .ok found) :
    OrNothing means v found := by
  rcases readOptional_ok accepted with ⟨rfl, rfl⟩ | ⟨b, rfl, made⟩
  · rfl
  · exact sound made

end Settings
end DocumentServer
