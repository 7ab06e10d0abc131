import DocumentServer.Text.Blank

/-!
Stylesheets inside a page: a block of styles before the first closing head tag, or at the very
beginning of a page that has none.
-/
namespace DocumentServer.Markup

/-- Whether the text begins with a word, without regard to the case of ASCII letters. -/
def beginsWith (word s : List Char) : Bool :=
  s.length ≥ word.length && (s.take word.length).map Char.toLower == word

/-- A closing head tag: white space may stand before its end. -/
def beginsWithHeadClose (s : List Char) : Bool :=
  beginsWith ['<', '/', 'h', 'e', 'a', 'd'] s && ((s.drop 6).dropWhile Text.isBlank).head? == some '>'

/-- What stands before the first closing head tag, and the rest, if there is such a tag. -/
def splitAtHeadClose? : List Char → Option (List Char × List Char)
  | [] => none
  | c :: rest =>
    if beginsWithHeadClose (c :: rest) then some ([], c :: rest)
    else (splitAtHeadClose? rest).map fun (before, after) => (c :: before, after)

def styleBlock (css : List Char) : List Char := "<style>".toList ++ css ++ "</style>".toList

def insertStyle (markup css : List Char) : List Char :=
  match splitAtHeadClose? markup with
  | some (before, after) => before ++ styleBlock css ++ after
  | none => styleBlock css ++ markup

/-- An empty stylesheet leaves the page as it is. -/
def injectStylesheet (markup : String) (css : Option String) : String :=
  match css with
  | none => markup
  | some css => if css.isEmpty then markup else .ofList (insertStyle markup.toList css.toList)

end DocumentServer.Markup
