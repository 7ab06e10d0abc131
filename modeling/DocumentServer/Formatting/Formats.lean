import DocumentServer.Fault
import DocumentServer.Value.Equality
import DocumentServer.Value.Printer

/-!
Named formats: a key chooses the definition by which a value is written.
-/
namespace DocumentServer.Formatting

/-- Definitions by key, in the order in which the keys were first named. -/
abbrev Formats := List (Value × Value)

def named (entries : List (String × String)) : Formats :=
  entries.map fun entry => (.text entry.1, .text entry.2)

def dateFormats : Formats := named
  [("iso", "ISO"), ("yyyy-mm-dd", "%Y-%m-%d"), ("mm-dd-yy", "%m-%d-%y"),
    ("dd-mm-yyyy", "%d-%m-%Y"), ("dd.mm.yyyy", "%d.%m.%Y"), ("month-name", "%B %d, %Y"),
    ("day-month-name", "%d %B %Y")]

def timestampFormats : Formats := named
  [("iso", "ISO"), ("unix", "UNIX"), ("rfc2822", "RFC2822"), ("short", "%Y-%m-%d %H:%M")]

def numberFormats : Formats := named
  [("integer", ",d"), ("decimal", ",.2f"), ("percent", ".0%"), ("currency", ",.2f")]

/-- The overrides replace definitions of the same key. -/
def mergeFormats (builtins overrides : Formats) : Formats :=
  overrides.foldl (fun formats entry => Value.assign entry.1 entry.2 formats) builtins

/-- Refuses values that cannot be keys. -/
def checkKey (key : Value) : Except Fault Unit :=
  match key.unhashable? with
  | some name => .error (.wrongType s!"unhashable type: '{name}'")
  | none => .ok ()

/-- The definition under a key. A key without one, or with nothing as its definition, is unknown. -/
def definition (subject : String) (formats : Formats) (key : Value) : Except Fault Value := do
  checkKey key
  match Value.lookup? key formats with
  | some .none => throw ⟨.filterValue, s!"Unknown {subject} format '{key.render}'"⟩
  | some d => return d
  | none => throw ⟨.filterValue, s!"Unknown {subject} format '{key.render}'"⟩

end DocumentServer.Formatting
