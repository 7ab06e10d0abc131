import DocumentServer.Value.Printer

/-!
Escaping: the five characters that mean something in markup are written as references. Text that
is markup already is left as it is.
-/
namespace DocumentServer.Markup

def escapeChar (c : Char) : List Char :=
  if c == '&' then "&amp;".toList
  else if c == '<' then "&lt;".toList
  else if c == '>' then "&gt;".toList
  else if c == '\'' then "&#39;".toList
  else if c == '"' then "&#34;".toList
  else [c]

def escapeText (s : String) : String := .ofList (s.toList.flatMap escapeChar)

/-- Values that are markup: text marked as such, and imported templates. -/
def markup? : Value → Option String
  | .markup s => some s
  | .module _ _ body => some body
  | _ => none

/-- A value as markup. -/
def escape (v : Value) : String := (markup? v).getD (escapeText v.render)

/-- Text stays as it is, of either kind; any other value is written out. -/
def softText : Value → Value
  | .text s => .text s
  | .markup s => .markup s
  | v => .text v.render

end DocumentServer.Markup
