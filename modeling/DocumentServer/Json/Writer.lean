import DocumentServer.Json.Basic
import DocumentServer.Number.Shortest
import DocumentServer.Text.Digit

/-!
Writing JSON in ASCII: on one line, or with every member on a line of its own.
-/
namespace DocumentServer.Json

/-- The one or two sixteen-bit units of a character. -/
def units16 (c : Char) : List Nat :=
  let n := c.toNat
  if n < 0x10000 then [n] else [0xD800 + (n - 0x10000) / 0x400, 0xDC00 + (n - 0x10000) % 0x400]

def escapeChar (c : Char) : List Char :=
  match c with
  | '"' => ['\\', '"']
  | '\\' => ['\\', '\\']
  | '\n' => ['\\', 'n']
  | '\r' => ['\\', 'r']
  | '\t' => ['\\', 't']
  | '\x0c' => ['\\', 'f']
  | '\x08' => ['\\', 'b']
  | c =>
    if 0x20 ≤ c.toNat && c.toNat < 0x7F then [c]
    else (units16 c).flatMap fun n => '\\' :: 'u' :: Text.hexNumeral 4 n

def quoteText (s : String) : List Char := '"' :: s.toList.flatMap escapeChar ++ ['"']

def intChars (n : Int) : List Char :=
  if n < 0 then '-' :: Nat.toDigits 10 n.natAbs else Nat.toDigits 10 n.natAbs

def doubleChars (x : Double) : List Char :=
  match x with
  | .nan => "NaN".toList
  | .infinite s => (if s then "-Infinity" else "Infinity").toList
  | x => x.render.toList

/-- Where the parts of a collection are put. -/
structure Style where
  /-- What stands before a part at a depth. -/
  lead : Nat → List Char
  comma : List Char
  colon : List Char

/-- Everything on one line. -/
def Style.line : Style := { lead := fun _ => [], comma := [','], colon := [':'] }

/-- A line for every part, two blanks deeper than its collection. -/
def Style.indented : Style :=
  { lead := fun depth => '\n' :: List.replicate (2 * depth) ' ', comma := [','],
    colon := [':', ' '] }

mutual

def chars (style : Style) (depth : Nat) : Json → List Char
  | .null => "null".toList
  | .bool b => (if b then "true" else "false").toList
  | .int n => intChars n
  | .double x => doubleChars x
  | .text s => quoteText s
  | .array [] => ['[', ']']
  | .array (item :: rest) =>
    '[' :: style.lead (depth + 1) ++ chars style (depth + 1) item
      ++ itemChars style (depth + 1) rest ++ style.lead depth ++ [']']
  | .object [] => ['{', '}']
  | .object ((key, item) :: rest) =>
    '{' :: style.lead (depth + 1) ++ quoteText key ++ style.colon ++ chars style (depth + 1) item
      ++ memberChars style (depth + 1) rest ++ style.lead depth ++ ['}']

def itemChars (style : Style) (depth : Nat) : List Json → List Char
  | [] => []
  | item :: rest =>
    style.comma ++ style.lead depth ++ chars style depth item ++ itemChars style depth rest

def memberChars (style : Style) (depth : Nat) : List (String × Json) → List Char
  | [] => []
  | (key, item) :: rest =>
    style.comma ++ style.lead depth ++ quoteText key ++ style.colon ++ chars style depth item
      ++ memberChars style depth rest

end

def write (style : Style) (j : Json) : String := .ofList (chars style 0 j)

end DocumentServer.Json
