import DocumentServer.Text.Ranges

/-!
White space: the characters that separate words and that trimming removes. They are the
Unicode white space characters together with the four information separators. Files are read with
every line end as a single line feed.
-/
namespace DocumentServer.Text

def blankRanges : Ranges :=
  [(9, 0xd), (0x1c, 0x20), (0x85, 0x85), (0xa0, 0xa0), (0x1680, 0x1680), (0x2000, 0x200a),
   (0x2028, 0x2029), (0x202f, 0x202f), (0x205f, 0x205f), (0x3000, 0x3000)]

def isBlank (c : Char) : Bool := blankRanges.covers c.toNat

/-- Drops the white space at both ends. -/
def trimBlank (s : List Char) : List Char :=
  ((s.dropWhile isBlank).reverse.dropWhile isBlank).reverse

def trim (s : String) : String := .ofList (trimBlank s.toList)

/-! ## Line ends -/

/-- A carriage return, with the line feed after it if there is one, becomes a line feed. -/
def unifyNewlineChars : List Char → List Char
  | [] => []
  | '\r' :: '\n' :: rest => '\n' :: unifyNewlineChars rest
  | '\r' :: rest => '\n' :: unifyNewlineChars rest
  | c :: rest => c :: unifyNewlineChars rest

def unifyNewlines (s : String) : String := .ofList (unifyNewlineChars s.toList)

end DocumentServer.Text
