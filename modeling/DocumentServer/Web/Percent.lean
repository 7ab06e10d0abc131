import DocumentServer.Text.Digit
import DocumentServer.Text.Utf8

/-!
Percent coding of addresses: an octet is written as a percent sign and two hexadecimal digits. Text
is coded by its UTF-8 octets.
-/
namespace DocumentServer.Web.Percent

/-- The octets of a text with its escapes replaced. A percent sign without two digits stands for
itself. -/
def unescape : List Char → Octets
  | '%' :: high :: low :: rest =>
    match Text.hexValue? high, Text.hexValue? low with
    | some h, some l => UInt8.ofNat (h * 16 + l) :: unescape rest
    | _, _ => Text.encodeChar '%' ++ unescape (high :: low :: rest)
  | c :: rest => Text.encodeChar c ++ unescape rest
  | [] => []
termination_by s => s.length

/-- The text that an escaped text stands for. Octets that are no UTF-8 are replaced. -/
def decode (text : String) : String := Text.decodeLenient (unescape text.toList)

/-- Characters that are never escaped. -/
def isUnreserved (c : Char) : Bool := c.isAlphanum || ['-', '.', '_', '~'].contains c

def escapeOctet (b : UInt8) : List Char :=
  '%' :: (Text.hexNumeral 2 b.toNat).map Char.toUpper

/-- Escapes the octets of a character, unless it may stand for itself. -/
def escapeChar (safe : List Char) (c : Char) : List Char :=
  if isUnreserved c || safe.contains c then [c] else (Text.encodeChar c).flatMap escapeOctet

def encodeWith (safe : List Char) (text : String) : String :=
  .ofList (text.toList.flatMap (escapeChar safe))

/-- One part of a path. -/
def encodeSegment (text : String) : String := encodeWith [] text

/-- A whole address keeps the signs that have a meaning in it. -/
def encodeAddress (text : String) : String := encodeWith ":/%#?=@[]!$&'()*+,;".toList text

end DocumentServer.Web.Percent
