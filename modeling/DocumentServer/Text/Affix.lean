/-! Beginnings, ends and pieces of text. -/
namespace DocumentServer.Text

def beginsWith (start text : String) : Bool := start.toList.isPrefixOf text.toList

def endsWith (ending text : String) : Bool := ending.toList.isSuffixOf text.toList

/-- What follows a beginning, if the characters have it. -/
def dropStart? (start : String) (s : List Char) : Option (List Char) :=
  if start.toList.isPrefixOf s then some (s.drop start.length) else none

/-- The pieces of a text between marks. -/
def pieces (mark : Char) : List Char → List (List Char)
  | [] => [[]]
  | c :: rest =>
    if c == mark then [] :: pieces mark rest
    else match pieces mark rest with
      | piece :: others => (c :: piece) :: others
      | [] => [[c]]

end DocumentServer.Text
