import DocumentServer.Formatting.Dates
import DocumentServer.Formatting.Numbers

/-!
What all templates of a program share: whether output is escaped, how a template ends, and the
named formats of the filters.
-/
namespace DocumentServer.Template

structure Environment where
  escapes : Bool
  keepsLastNewline : Bool
  dateFormats : Formatting.Formats
  timestampFormats : Formatting.Formats
  numberFormats : Formatting.Formats

/-- Documents are escaped and keep the line end of their last line. -/
def Environment.ofDocuments : Environment :=
  { escapes := true
    keepsLastNewline := true
    dateFormats := Formatting.dateFormats
    timestampFormats := Formatting.timestampFormats
    numberFormats := Formatting.numberFormats }

end DocumentServer.Template
