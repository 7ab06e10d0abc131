import DocumentServer.CommandLine.Launch

/-! The program: it reads its command line and says what is served where. -/
namespace DocumentServer.CommandLine

/-- The parts of the environment that settings are read from, in either case. -/
def variableNames : List String :=
  let names := ["templates_root", "documents_dir", "api_key", "host", "port", "default_page_size",
    "default_orientation", "download_ttl_seconds", "rewrite_static_urls", "log_level"].map
      (SettingName.variableStart ++ ·)
  let small := "port" :: names
  "HOME" :: small ++ small.map String.toUpper

def readEnvironment : IO (Association String String) := do
  let found ← variableNames.mapM fun name => return (← IO.getEnv name).map (name, ·)
  return found.filterMap id

/-- The file of variables in the current folder. One that cannot be read counts as missing. -/
def readEnvFile : IO (Option String) := do
  try return some (← IO.FS.readFile ".env")
  catch _ => return none

def describe (launch : Launch) : List String :=
  let templates := Files.pathText launch.bearings.templates
  let static := Files.pathText launch.bearings.static
  [s!"Serving on {launch.settings.host}:{launch.settings.port}",
   s!"Templates: {templates}", s!"Static files: {static}"]

def explain : Refusal → List String
  | .stop .help => []
  | .stop (.usage e) => [usageLine program e]
  | .settings issues => issues.map fun issue => issue.problem.message
  | .failure f => [f.message]

/-- Starts from the arguments and the environment; the status tells whether that went well. -/
def run (arguments : List String) : IO UInt32 := do
  let environment ← readEnvironment
  let folder ← IO.getEnv "PWD"
  let surroundings : Settings.Surroundings :=
    { tree := .empty, folder := Files.partsOf (folder.getD "/")
      home := Files.partsOf ((environment.get? "HOME").getD "/") }
  match launch surroundings environment (← readEnvFile) arguments with
  | .ok start =>
    (describe start).forM IO.println
    return 0
  | .error (.stop .help) => return 0
  | .error refusal =>
    (explain refusal).forM IO.eprintln
    return 2

end DocumentServer.CommandLine

def main (arguments : List String) : IO UInt32 := DocumentServer.CommandLine.run arguments
