import DocumentServer.Text.Utf8

/-!
Base64: three octets in four characters. What is missing of the last three is marked by equals
signs.
-/
namespace DocumentServer.Text.Base64

def alphabet : List Char :=
  "ABCDEFGHIJKLMNOPQRSTUVWXYZabcdefghijklmnopqrstuvwxyz0123456789+/".toList

/-- The character of a number below 64. -/
def digit (n : Nat) : Char := alphabet.getD n '='

/-- The number that a character stands for. -/
def value? (c : Char) : Option Nat := alphabet.idxOf? c

def encodeChars : Octets → List Char
  | [] => []
  | [a] => [digit (a.toNat / 4), digit (a.toNat % 4 * 16), '=', '=']
  | [a, b] =>
    [digit (a.toNat / 4), digit (a.toNat % 4 * 16 + b.toNat / 16), digit (b.toNat % 16 * 4), '=']
  | a :: b :: c :: rest =>
    digit (a.toNat / 4) :: digit (a.toNat % 4 * 16 + b.toNat / 16)
      :: digit (b.toNat % 16 * 4 + c.toNat / 64) :: digit (c.toNat % 64) :: encodeChars rest

def encode (octets : Octets) : String := .ofList (encodeChars octets)

/-- The three octets of four numbers below 64. -/
def octetsOf (w x y z : Nat) : Octets :=
  [w * 4 + x / 16, x % 16 * 16 + y / 4, y % 4 * 64 + z].map UInt8.ofNat

/-- Four characters at a time; equals signs may stand in the last four only. -/
def decodeChars? : List Char → Option Octets
  | [] => some []
  | [a, b, '=', '='] => do return (octetsOf (← value? a) (← value? b) 0 0).take 1
  | [a, b, c, '='] => do return (octetsOf (← value? a) (← value? b) (← value? c) 0).take 2
  | a :: b :: c :: d :: rest => do
    let octets := octetsOf (← value? a) (← value? b) (← value? c) (← value? d)
    return octets ++ (← decodeChars? rest)
  | _ => none

def decode? (text : String) : Option Octets := decodeChars? text.toList

end DocumentServer.Text.Base64
