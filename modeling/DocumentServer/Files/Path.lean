import DocumentServer.Text.Affix
import DocumentServer.Text.Quoted

/-!
Absolute paths, as the list of their parts. Empty parts and single dots are left out; two dots are
kept, as what they mean depends on links.
-/
namespace DocumentServer.Files

abbrev Path := List String

/-- Whether a piece of a path text names anything. -/
def isNamed (piece : String) : Bool := piece != "" && piece != "."

/-- The parts that a path text names. -/
def partsOf (text : String) : List String :=
  ((Text.pieces '/' text.toList).map String.ofList).filter isNamed

def isAbsolute (text : String) : Bool := text.toList.head? == some '/'

/-- The path that a text denotes when it is used inside of a folder. -/
def joinText (folder : Path) (text : String) : Path :=
  if isAbsolute text then partsOf text else folder ++ partsOf text

def pathText (path : Path) : String := "/" ++ String.intercalate "/" path

/-- A path below a folder as text, without a leading slash. -/
def relativeText (parts : List String) : String :=
  if parts.isEmpty then "." else String.intercalate "/" parts

/-- The slashes in front of a path, in their plainest spelling. Exactly two of them are kept. -/
def leadOf (text : String) : String :=
  match text.toList with
  | '/' :: '/' :: '/' :: _ => "/"
  | '/' :: '/' :: _ => "//"
  | '/' :: _ => "/"
  | _ => ""

/-- A path as it is given: absolute, or below a folder. -/
structure Place where
  /-- Where the path starts, unless it is absolute. -/
  folder : Path
  lead : String
  parts : List String

namespace Place

def ofText (folder : Path) (text : String) : Place :=
  { folder, lead := leadOf text, parts := partsOf text }

def path (p : Place) : Path := if p.lead.isEmpty then p.folder ++ p.parts else p.parts

/-- The plainest spelling. -/
def text (p : Place) : String :=
  if p.lead.isEmpty then relativeText p.parts else p.lead ++ String.intercalate "/" p.parts

def parent (p : Place) : Place := { p with parts := p.parts.dropLast }

/-- A path that is given inside of a place. -/
def under (p : Place) (text : String) : Place :=
  if isAbsolute text then ofText p.folder text else { p with parts := p.parts ++ partsOf text }

end Place

/-- The plainest spelling of a path. -/
def plainText (text : String) : String := (Place.ofText [] text).text

/-- Whether a path is a folder or lies inside of it. -/
def isInside (folder path : Path) : Bool := folder.isPrefixOf path

/-- The part of a path below a folder, if it lies inside of it. -/
def below? (folder path : Path) : Option (List String) :=
  if isInside folder path then some (path.drop folder.length) else none

def nameOf (path : Path) : String := path.getLast?.getD ""

/-- A path beside another one, under another name. -/
def withName (path : Path) (name : String) : Path := path.dropLast ++ [name]

/-- The beginning of a file name, up to the first dot. -/
def stem (name : String) : String := .ofList (name.toList.takeWhile (· != '.'))

/-- Takes two dots to the parent without regard to links. -/
def collapse (path : Path) : Path :=
  path.foldl (fun done part => if part == ".." then done.dropLast else done ++ [part]) []

end DocumentServer.Files
