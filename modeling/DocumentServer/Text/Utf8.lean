import DocumentServer.Text.Digit

/-!
UTF-8: octets of text, strict decoding that names the first malformed octets, and lenient
decoding that replaces them.
-/
namespace DocumentServer

abbrev Octets := List UInt8

namespace Text

def encodeChar (c : Char) : Octets := (String.utf8EncodeChar c)

def encodeUtf8 (s : String) : Octets := s.toList.flatMap encodeChar

inductive Utf8Fault where
  | startByte
  | continuationByte
  | endOfData

def Utf8Fault.message : Utf8Fault → String
  | .startByte => "invalid start byte"
  | .continuationByte => "invalid continuation byte"
  | .endOfData => "unexpected end of data"

/-- One step of decoding: a character with the octets it took, or a fault with the octets that
belong to it. -/
inductive Utf8Step where
  | char (c : Char) (size : Nat)
  | fault (kind : Utf8Fault) (size : Nat)

/-- The number of octets a first octet announces, and the bounds of the second octet. -/
def leadOctet (b : Nat) : Option (Nat × Nat × Nat) :=
  if 0xC2 ≤ b && b ≤ 0xDF then some (2, 0x80, 0xBF)
  else if b == 0xE0 then some (3, 0xA0, 0xBF)
  else if b == 0xED then some (3, 0x80, 0x9F)
  else if 0xE1 ≤ b && b ≤ 0xEF then some (3, 0x80, 0xBF)
  else if b == 0xF0 then some (4, 0x90, 0xBF)
  else if b == 0xF4 then some (4, 0x80, 0x8F)
  else if 0xF1 ≤ b && b ≤ 0xF3 then some (4, 0x80, 0xBF)
  else none

/-- The longest well-formed beginning of the octets after a first octet, at most `wanted`. -/
def continuation (low high : Nat) : Nat → Octets → List Nat
  | 0, _ => []
  | _, [] => []
  | wanted + 1, b :: rest =>
    if low ≤ b.toNat && b.toNat ≤ high then
      (b.toNat % 64) :: continuation 0x80 0xBF wanted rest
    else []

def decodeStep (b : UInt8) (rest : Octets) : Utf8Step :=
  let n := b.toNat
  if n < 0x80 then .char (Char.ofNat n) 1
  else match leadOctet n with
    | none => .fault .startByte 1
    | some (size, low, high) =>
      let tail := continuation low high (size - 1) rest
      if tail.length + 1 == size then
        let lead := n % Nat.pow 2 (7 - size)
        .char (Char.ofNat (tail.foldl (fun v d => v * 64 + d) lead)) size
      else if tail.length == rest.length then .fault .endOfData (tail.length + 1)
      else .fault .continuationByte (tail.length + 1)

structure Utf8Error where
  octets : Octets
  position : Nat
  fault : Utf8Fault

def Utf8Error.message (e : Utf8Error) : String :=
  let what := match e.octets with
    | [b] => s!"byte 0x{String.ofList (hexNumeral 2 b.toNat)} in position {e.position}"
    | bs => s!"bytes in position {e.position}-{e.position + bs.length - 1}"
  s!"'utf-8' codec can't decode {what}: {e.fault.message}"

/-- Strict decoding from a position on. The fuel is at least the number of octets. -/
def decodeFrom (fuel position : Nat) (bs : Octets) : Except Utf8Error (List Char) :=
  match fuel, bs with
  | 0, _ => .ok []
  | _, [] => .ok []
  | fuel + 1, b :: rest =>
    match decodeStep b rest with
    | .char c size => do
      let cs ← decodeFrom fuel (position + size) ((b :: rest).drop size)
      return c :: cs
    | .fault fault size => .error { octets := (b :: rest).take size, position, fault }

def decodeUtf8 (bs : Octets) : Except Utf8Error String :=
  (decodeFrom bs.length 0 bs).map String.ofList

def decodeLenientFrom (fuel : Nat) (bs : Octets) : List Char :=
  match fuel, bs with
  | 0, _ => []
  | _, [] => []
  | fuel + 1, b :: rest =>
    match decodeStep b rest with
    | .char c size => c :: decodeLenientFrom fuel ((b :: rest).drop size)
    | .fault _ size => Char.ofNat 0xFFFD :: decodeLenientFrom fuel ((b :: rest).drop size)

/-- Decoding with a replacement character for each malformed sequence. -/
def decodeLenient (bs : Octets) : String := .ofList (decodeLenientFrom bs.length bs)

end Text
end DocumentServer
