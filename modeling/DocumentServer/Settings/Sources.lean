import DocumentServer.Settings.EnvFile
import DocumentServer.Text.Letter
import DocumentServer.Value.Basic

/-!
Where settings come from: arguments, variables of the environment and a file of variables. Each source
hands over what it gives, and that is put together so that the source that counts most wins. How a
library does this is a parameter; `SettingLibrary.standard` is the library that the server runs with.
Variables are named without regard to case.
-/
namespace DocumentServer

/-- A setting with the names under which it may be given. -/
structure SettingName where
  name : String
  /-- Names of arguments, in order of precedence. -/
  arguments : List String
  /-- Names of variables in small letters, in order of precedence. -/
  variableNames : List String
  deriving DecidableEq

namespace SettingName

def variableStart : String := "htmdocs_"

/-- A setting whose variable has the common beginning. -/
def plain (name : String) : SettingName :=
  { name, arguments := [name], variableNames := [variableStart ++ name] }

/-- The port can also be set by a variable of no more than its name. -/
def port : SettingName :=
  { name := "port", arguments := ["PORT", "port", "HTMDOCS_PORT"],
    variableNames := ["port", "htmdocs_port"] }

/-- The settings of the server. -/
def all : List SettingName :=
  [.plain "templates_root", .plain "documents_dir", .plain "api_key", .plain "host", .port,
   .plain "default_page_size", .plain "default_orientation", .plain "download_ttl_seconds",
   .plain "rewrite_static_urls", .plain "log_level"]

end SettingName

structure SettingSources where
  arguments : Association String Value
  environment : Association String String
  /-- The text of the file of variables, if there is one. -/
  envFile : Option String

/-- A source of settings. -/
inductive SourceKind where
  | arguments
  | environment
  | envFile

/-- A given value, and the name under which an issue with it is reported. -/
structure Given where
  name : String
  value : Value

/-- A library that collects settings. -/
class SettingLibrary where
  /-- The sources, the one that counts most in front. -/
  order : List SourceKind
  /-- The variables in the text of a file, which may refer to those of the environment. -/
  readFile : Association String String → String → Association String (Option String)
  /-- What a source hands over. -/
  filed : SettingSources → SourceKind → Association String Value
  /-- What all sources hand over, put together. -/
  merge : List (Association String Value) → Association String Value
  /-- The value of a setting in what has been put together. -/
  pick? : SettingName → Association String Value → Option Value
  /-- The name of a setting in reports. -/
  reported : SettingSources → SettingName → String

/-- The first of some names that is there. -/
def firstOf? (names : List String) (entries : Association String α) : Option (String × α) :=
  names.findSome? fun name => (entries.get? name).map (name, ·)

/-- Variables under their names in small letters. Of two alike, the later one counts. -/
def foldCase (bindings : Association String String) : Association String String :=
  bindings.foldl (fun done (name, value) => done.put (Text.toLower name) value) []

/-- Leaves out the names that have no value. -/
def setOnly (bindings : Association String (Option String)) : Association String String :=
  bindings.filterMap fun (name, value) => value.map (name, ·)

namespace SettingSources

/-- What the sources give for a setting. -/
def find? [library : SettingLibrary] (s : SettingSources) (setting : SettingName) : Option Given :=
  (library.pick? setting (library.merge (library.order.map (library.filed s)))).map fun value =>
    { name := library.reported s setting, value }

/-! ## The library of the server -/

/-- The variables of the file. Of two names alike but for case, the later one counts. -/
def fileVariables (s : SettingSources) : Association String String :=
  match s.envFile with
  | some text =>
    let bindings := EnvFile.read s.environment text
    setOnly (bindings.foldl (fun done (name, value) => done.put (Text.toLower name) value) [])
  | none => []

/-- The first value that a source has for a setting, by the names that it accepts for it. -/
def value? (s : SettingSources) (setting : SettingName) : SourceKind → Option Value
  | .arguments => (firstOf? setting.arguments s.arguments).map (·.2)
  | .environment => (firstOf? setting.variableNames (foldCase s.environment)).map (.text ·.2)
  | .envFile => (firstOf? setting.variableNames s.fileVariables).map (.text ·.2)

/-- A source hands over its values under the settings' own names, whichever names were used. -/
def filed (s : SettingSources) (source : SourceKind) : Association String Value :=
  SettingName.all.filterMap fun setting => (s.value? setting source).map (setting.name, ·)

/-- Issues are reported under the name of the argument, if there is one. -/
def reported (s : SettingSources) (setting : SettingName) : String :=
  ((firstOf? setting.arguments s.arguments).map (·.1)).getD setting.name

/-- Two states in one. The entries of the first one stay. -/
def union (first second : Association String Value) : Association String Value :=
  first.foldr (fun (name, value) done => done.put name value) second

end SettingSources

instance SettingLibrary.standard : SettingLibrary where
  order := [.arguments, .environment, .envFile]
  readFile := EnvFile.read
  filed := SettingSources.filed
  merge states := states.foldl SettingSources.union []
  pick? setting values := (firstOf? setting.arguments values).map (·.2)
  reported := SettingSources.reported

end DocumentServer
