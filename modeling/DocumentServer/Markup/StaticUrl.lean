import DocumentServer.Text.Word

/-!
References to static files: an absolute reference gets a dot, which makes it relative to the page.
References that continue a word or a path are left alone.
-/
namespace DocumentServer.Markup

def staticPath : List Char := ['/', 's', 't', 'a', 't', 'i', 'c']

/-- Whether a character before a reference makes it part of something longer. -/
def continuesPath (c : Char) : Bool := c == '.' || Text.isWord c

/-- `before` is the character before the text, if any. -/
def rewriteFrom (before : Option Char) : List Char → List Char
  | [] => []
  | c :: rest =>
    let isReference := staticPath.isPrefixOf (c :: rest) && !(before.any continuesPath)
    if isReference then '.' :: c :: rewriteFrom (some c) rest else c :: rewriteFrom (some c) rest

def rewriteStaticUrls (source : String) : String := .ofList (rewriteFrom none source.toList)

end DocumentServer.Markup
