import DocumentServer.Files.Resolve
import DocumentServer.Formatting.Shift
import DocumentServer.Page.Config
import DocumentServer.Settings.Sources
import DocumentServer.Validation.Scalar

/-!
The settings of the server: reading them from their sources, and the folders and durations that
follow from them. All problems are reported together, in the order of the settings.
-/
namespace DocumentServer
open Validation

/-- Downloads last five minutes by default. -/
theorem Settings.fiveMinutes_pos : (0 : Int) < 300 := by decide

structure Settings where
  templatesRoot : String := "../templates"
  /-- The folder with templates and static files, if it is not below the root. -/
  documentsDir : Option String := none
  apiKey : Option String := none
  host : String := "0.0.0.0"
  port : Int := 4000
  page : Page.Config := .a4Portrait
  downloadSeconds : Int := 300
  downloadSeconds_pos : 0 < downloadSeconds := by exact Settings.fiveMinutes_pos
  rewritesStaticUrls : Bool := false
  logLevel : String := "INFO"

namespace Settings

/-! ## Reading -/

/-- What a setting is read as, with the issues found on the way. -/
abbrev Reading (α : Type) := List Issue × α

/-- Reads one setting. What is not given, or not accepted, leaves the default. -/
def field [SettingLibrary] (sources : SettingSources) (setting : SettingName) (read : Value → Except Problem α)
    (default : α) : Reading α :=
  match sources.find? setting with
  | none => ([], default)
  | some given =>
    match read given.value with
    | .ok a => ([], a)
    | .error problem => ([{ place := [given.name], problem, input := given.value }], default)

/-- Nothing is a value of its own. -/
def readOptional (read : Value → Except Problem α) (v : Value) : Except Problem (Option α) :=
  match v with
  | .none => .ok none
  | v => (read v).map some

def readSize (v : Value) : Except Problem Page.Size := do
  let text ← readText v
  (Page.Size.read text).mapError fun f => .refused f.message

def orientationNames : List String := ["portrait", "landscape"]

def readOrientation (v : Value) : Except Problem Page.Orientation := do
  let name ← readChoice orientationNames v
  return if name == "landscape" then .landscape else .portrait

def positive (n : Int) (h : 0 < n := by decide) : { n : Int // 0 < n } := ⟨n, h⟩

/-- Reads all settings. -/
def read [SettingLibrary] (sources : SettingSources) : Except (List Issue) Settings :=
  let (e₁, templatesRoot) := field sources (.plain "templates_root") readPath "../templates"
  let (e₂, documentsDir) := field sources (.plain "documents_dir") (readOptional readPath) none
  let (e₃, apiKey) := field sources (.plain "api_key") (readOptional readText) none
  let (e₄, host) := field sources (.plain "host") readText "0.0.0.0"
  let (e₅, port) := field sources .port readWhole 4000
  let (e₆, size) := field sources (.plain "default_page_size") readSize .a4
  let (e₇, orientation) := field sources (.plain "default_orientation") readOrientation .portrait
  let (e₈, seconds) := field sources (.plain "download_ttl_seconds") readPositive (positive 300)
  let (e₉, rewrites) := field sources (.plain "rewrite_static_urls") readFlag false
  let (e₁₀, logLevel) := field sources (.plain "log_level") readText "INFO"
  match e₁ ++ e₂ ++ e₃ ++ e₄ ++ e₅ ++ e₆ ++ e₇ ++ e₈ ++ e₉ ++ e₁₀ with
  | [] => .ok { templatesRoot, documentsDir, apiKey, host, port, page := { size, orientation },
                downloadSeconds := seconds.1, downloadSeconds_pos := seconds.2,
                rewritesStaticUrls := rewrites, logLevel }
  | issues => .error issues

/-! ## Folders -/

/-- Where paths in settings start: the files, the current folder and the home folder. -/
structure Surroundings where
  tree : Files.Tree
  folder : Files.Path
  home : Files.Path

/-- A tilde alone in front is the home folder. No other user's folder is known. -/
def expandHome (s : Surroundings) (text : String) : Except Fault Files.Path :=
  match Files.partsOf text with
  | first :: rest =>
    if Files.isAbsolute text || first.toList.head? != some '~' then
      .ok (Files.joinText s.folder text)
    else if first == "~" then .ok (s.home ++ rest)
    else .error ⟨.runtime, "Could not determine home directory."⟩
  | [] => .ok (Files.joinText s.folder text)

def folderAt (s : Surroundings) (text : String) : Except Fault Files.Path := do
  Files.resolve s.tree (← expandHome s text)

/-- The folder with templates and static files. -/
def documentsFolder (settings : Settings) (s : Surroundings) : Except Fault Files.Path :=
  match settings.documentsDir with
  | some text => folderAt s text
  | none => (folderAt s settings.templatesRoot).map (· ++ ["documents"])

def templatesFolder (settings : Settings) (s : Surroundings) : Except Fault Files.Path :=
  (settings.documentsFolder s).map (· ++ ["templates"])

def staticFolder (settings : Settings) (s : Surroundings) : Except Fault Files.Path :=
  (settings.documentsFolder s).map (· ++ ["static"])

/-- How long a download can be fetched. -/
def downloadTtl (settings : Settings) : Except Fault Calendar.Duration :=
  Formatting.checkedDuration (settings.downloadSeconds * Calendar.microsPerSecond)

/-- What a server needs to know that can only be found out where it runs. -/
structure Bearings where
  templates : Files.Path
  static : Files.Path
  ttl : Calendar.Duration

def bearings (settings : Settings) (s : Surroundings) : Except Fault Bearings := do
  let templates ← settings.templatesFolder s
  let ttl ← settings.downloadTtl
  return { templates, static := ← settings.staticFolder s, ttl }

end Settings
end DocumentServer
