import DocumentServer.Text.Digit
import DocumentServer.Text.Printable

/-!
Quoted text: a string between quotation marks, with escapes for the marks, the backslash and
every character without a visible form. Apostrophes are the marks unless the text holds an
apostrophe and no double quote.
-/
namespace DocumentServer.Text

/-- The mark that needs the fewer escapes. -/
def quoteMark (s : List Char) : Char := if s.contains '\'' && !s.contains '"' then '"' else '\''

def escapeUnprintable (c : Char) : List Char :=
  let n := c.toNat
  if n < 0x100 then '\\' :: 'x' :: hexNumeral 2 n
  else if n < 0x10000 then '\\' :: 'u' :: hexNumeral 4 n
  else '\\' :: 'U' :: hexNumeral 8 n

def quoteChar (mark c : Char) : List Char :=
  if c == mark || c == '\\' then ['\\', c]
  else if c == '\n' then ['\\', 'n']
  else if c == '\r' then ['\\', 'r']
  else if c == '\t' then ['\\', 't']
  else if isPrintable c then [c]
  else escapeUnprintable c

def quoteChars (s : List Char) : List Char :=
  let mark := quoteMark s
  mark :: s.flatMap (quoteChar mark) ++ [mark]

def quote (s : String) : String := .ofList (quoteChars s.toList)

end DocumentServer.Text
