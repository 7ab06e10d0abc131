import DocumentServer.Fault
import DocumentServer.Text.Affix
import DocumentServer.Text.Quoted

/-!
Addresses: a scheme, a place and a path in one text, and what a reader makes of it. The place is the host
with its port. A host in brackets has to be an address of version 6 or of a later one, so there are texts
that cannot be read.
-/
namespace DocumentServer.Web.Address

/-- Signs that are taken out of an address before it is read. -/
def isGap (c : Char) : Bool := ['\t', '\n', '\r'].contains c

/-- Signs that end the place. -/
def endsPlace (c : Char) : Bool := ['/', '?', '#'].contains c

def isSchemeSign (c : Char) : Bool := c.isAlphanum || ['+', '-', '.'].contains c

/-- A scheme begins with a letter. -/
def isScheme (chars : List Char) : Bool :=
  (chars.head?.any Char.isAlpha) && chars.all isSchemeSign

/-! ## Hosts in brackets -/

/-- A number up to 255, without a zero in front. -/
def isByte (chars : List Char) : Bool :=
  match Text.asciiNumber? chars with
  | some n => chars.length ≤ 3 && n ≤ 255 && (chars == ['0'] || chars.head? != some '0')
  | none => false

def isVersion4 (chars : List Char) : Bool :=
  let bytes := Text.pieces '.' chars
  bytes.length == 4 && bytes.all isByte

def isGroup (chars : List Char) : Bool :=
  !chars.isEmpty && chars.length ≤ 4 && chars.all Text.isHexDigit

/-- The groups between colons. An address of version 4 at the end stands for two of them. -/
def groups (chars : List Char) : List (List Char) :=
  let parts := Text.pieces ':' chars
  match parts.reverse with
  | last :: before => if isVersion4 last then before.reverse ++ [['0'], ['0']] else parts
  | [] => parts

/-- How many groups there are on one side of two colons in a row. -/
def sideCount? (side : List (List Char)) : Option Nat :=
  if side == [[]] then some 0 else if side.all isGroup then some side.length else none

/-- Eight groups, or fewer and two colons in a row somewhere. -/
def isVersion6 (chars : List Char) : Bool :=
  match groups chars with
  | [] => false
  | first :: rest =>
    match rest.dropWhile (!·.isEmpty) with
    | _ :: side :: sides =>
      match sideCount? (first :: rest.takeWhile (!·.isEmpty)), sideCount? (side :: sides) with
      | some before, some after => before + after ≤ 7
      | _, _ => false
    | _ => rest.length == 7 && (first :: rest).all isGroup

/-- An address of version 6 may name a zone after it. -/
def isZoned (chars : List Char) : Bool :=
  let address := chars.takeWhile (· != '%')
  match chars.drop address.length with
  | [] => isVersion6 address
  | _ :: zone => isVersion6 address && !zone.isEmpty && !zone.contains '%'

/-- A later version, and an address in it. -/
def isLater (chars : List Char) : Bool :=
  let version := (chars.drop 1).takeWhile Text.isHexDigit
  !version.isEmpty && match chars.drop (1 + version.length) with
    | '.' :: _ :: _ => true
    | _ => false

def checkBracketed (chars : List Char) : Except Fault Unit :=
  if chars.head? == some 'v' then
    if isLater chars then .ok () else .error (.wrongValue "IPvFuture address is invalid")
  else if isVersion4 chars then .error (.wrongValue "An IPv4 address cannot be in brackets")
  else if isZoned chars then .ok ()
  else .error (.wrongValue
    s!"{Text.quote (.ofList chars)} does not appear to be an IPv4 or IPv6 address")

/-! ## Places -/

/-- Characters that would come to a sign with a meaning in a place if their plain form were taken. -/
def disguises : List Nat :=
  [0x2047, 0x2048, 0x2049, 0x2100, 0x2101, 0x2105, 0x2106, 0x2a74, 0xfe13, 0xfe16, 0xfe55, 0xfe56,
   0xfe5f, 0xfe6b, 0xff03, 0xff0f, 0xff1a, 0xff1f, 0xff20]

def checkPlace (place : List Char) : Except Fault Unit := do
  if place.contains '[' != place.contains ']' then
    throw (.wrongValue "Invalid IPv6 URL")
  if place.contains '[' then
    checkBracketed (((place.dropWhile (· != '[')).drop 1).takeWhile (· != ']'))
  if place.any fun c => disguises.contains c.toNat then
    throw (.wrongValue
      s!"netloc '{String.ofList place}' contains invalid characters under NFKC normalization")

/-- Whether a text can stand as a place in an address that is read. -/
def isPlace (chars : List Char) : Bool :=
  chars.all (!endsPlace ·) && (checkPlace (chars.filter (!isGap ·))).isOk

/-! ## Paths -/

/-- What follows the scheme, if there is one. -/
def afterScheme (chars : List Char) : List Char :=
  let scheme := chars.takeWhile (· != ':')
  match chars.drop scheme.length with
  | _ :: rest => if isScheme scheme then rest else chars
  | [] => chars

/-- A path ends where a query or a fragment begins. -/
def cutPath (chars : List Char) : List Char := chars.takeWhile fun c => c != '?' && c != '#'

/-- The path of an address, without the escapes being replaced. -/
def path? (address : String) : Except Fault String :=
  let chars := (address.toList.dropWhile (·.toNat ≤ 0x20)).filter (!isGap ·)
  match afterScheme chars with
  | '/' :: '/' :: rest => do
    let place := rest.takeWhile (!endsPlace ·)
    checkPlace place
    return .ofList (cutPath (rest.drop place.length))
  | rest => .ok (.ofList (cutPath rest))

end DocumentServer.Web.Address
