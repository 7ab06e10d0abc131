import DocumentServer.Settings.Basic

/-! Settings that are read when they are first asked for, and kept until they are let go. -/
namespace DocumentServer
open Validation

/-- The settings that have been read, if there are any. -/
structure KeptSettings where
  settings : Option Settings := none

namespace KeptSettings

/-- What is kept, or else what the sources give now. Settings with issues are not kept. -/
def ask [SettingLibrary] (kept : KeptSettings) (sources : SettingSources) :
    Except (List Issue) Settings × KeptSettings :=
  match kept.settings with
  | some settings => (.ok settings, kept)
  | none =>
    match Settings.read sources with
    | .ok settings => (.ok settings, ⟨some settings⟩)
    | .error issues => (.error issues, kept)

def letGo : KeptSettings := {}

end KeptSettings
end DocumentServer
