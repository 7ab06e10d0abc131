import DocumentServer.Catalog.Writer
import DocumentServer.CommandLine.Launch

/-! The command line that writes a catalog of all documents. -/
namespace DocumentServer.CommandLine

def catalogOptions : List OptionSpec :=
  [{ name := "--output", kind := .text }, { name := "--templates-root", kind := .text }]

def defaultOutput : String := "document_catalog"

def catalogOverrides (values : Association String Value) : Association String Value :=
  ((values.get? "--templates-root").map fun v => ("templates_root", v)).toList

def outputText (values : Association String Value) : String :=
  ((values.get? "--output").bind Value.text?).getD defaultOutput

/-- What the options of a command line ask for: the templates, and where the catalog goes. -/
def readCatalog [SettingLibrary] (surroundings : Settings.Surroundings)
    (environment : Association String String) (envFile : Option String) (arguments : List String) :
    Except Refusal (Files.Path × Files.Place) := do
  let values ← (read catalogOptions arguments).mapError .stop
  let settings ← readSettings { arguments := catalogOverrides values, environment, envFile }
  let templates ← faultless (settings.templatesFolder surroundings)
  return (templates, .ofText surroundings.folder (outputText values))

/-- The files after the command, and the pages that were written or what went wrong. -/
def writeCatalog [SettingLibrary] (surroundings : Settings.Surroundings)
    (environment : Association String String) (envFile : Option String) (arguments : List String) :
    Files.Tree × Except Refusal (List String) :=
  match readCatalog surroundings environment envFile arguments with
  | .error e => (surroundings.tree, .error e)
  | .ok (templates, output) =>
    let (tree, written) := Catalog.write surroundings.tree templates output
    (tree, written.mapError .failure)

end DocumentServer.CommandLine
