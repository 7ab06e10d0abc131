import DocumentServer.CommandLine.Options
import DocumentServer.Failure
import DocumentServer.Settings.Basic
import DocumentServer.Settings.LogLevel

/-! The command line that starts the server: its options go before all other sources of settings. -/
namespace DocumentServer.CommandLine

/-- What a server is started with. -/
structure Launch where
  settings : Settings
  bearings : Settings.Bearings
  logLevel : Value

/-- Why a command does nothing. -/
inductive Refusal where
  | stop (stop : Stop)
  | settings (issues : List Validation.Issue)
  | failure (failure : Failure)

def program : String := "htmldocs-server"

def usageLine (program : String) (e : UsageError) : String := s!"{program}: error: {e.message}"

def launchOptions : List OptionSpec :=
  [{ name := "--templates-root", kind := .text }, { name := "--host", kind := .text },
   { name := "--port", kind := .whole }]

/-- The arguments for settings that the options give. -/
def overrides (values : Association String Value) : Association String Value :=
  [("templates_root", "--templates-root"), ("host", "--host"), ("port", "--port")].filterMap
    fun (setting, option) => (values.get? option).map (setting, ·)

def readSettings [SettingLibrary] (sources : SettingSources) : Except Refusal Settings :=
  (Settings.read sources).mapError .settings

def faultless (result : Except Fault α) : Except Refusal α :=
  result.mapError fun f => .failure (.fault f)

def launch [SettingLibrary] (surroundings : Settings.Surroundings)
    (environment : Association String String) (envFile : Option String) (arguments : List String) :
    Except Refusal Launch := do
  let values ← (read launchOptions arguments).mapError .stop
  let settings ← readSettings { arguments := overrides values, environment, envFile }
  let logLevel ← faultless (LogLevel.read (.text settings.logLevel))
  return { settings, bearings := ← faultless (settings.bearings surroundings), logLevel }

end DocumentServer.CommandLine
