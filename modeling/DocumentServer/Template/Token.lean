import DocumentServer.Fault
import DocumentServer.Number.Double
import DocumentServer.Text.Quoted

/-!
Tokens of the template language, each with the line on which it begins.
-/
namespace DocumentServer.Template

inductive Lexeme where
  /-- Text outside of every tag. -/
  | data (s : String)
  | variableBegin
  | variableEnd
  | blockBegin
  | blockEnd
  | name (s : String)
  | text (s : String)
  | integer (n : Int)
  | double (x : Double)
  | operator (sign : String)
  | finish
  /-- What follows is no token; asking for it reports the fault. -/
  | malformed (f : Fault)

structure Token where
  line : Nat
  lexeme : Lexeme

namespace Lexeme

/-- A token as error messages name it. -/
def describe : Lexeme → String
  | .data _ => "template data / text"
  | .variableBegin => "begin of print statement"
  | .variableEnd => "end of print statement"
  | .blockBegin => "begin of statement block"
  | .blockEnd => "end of statement block"
  | .name s => s
  | .text _ => "string"
  | .integer _ => "integer"
  | .double _ => "float"
  | .operator sign => sign
  | .finish => "end of template"
  | .malformed _ => "end of template"

def isName (word : String) : Lexeme → Bool
  | .name s => s == word
  | _ => false

def isOperator (sign : String) : Lexeme → Bool
  | .operator s => s == sign
  | _ => false

def isBlockEnd : Lexeme → Bool
  | .blockEnd => true
  | _ => false

end Lexeme

/-- The template is not well-formed. -/
def syntaxFault (message : String) : Fault := ⟨.templateSyntax, message⟩

/-- The template is well-formed but asks for something that does not exist. -/
def assertionFault (message : String) : Fault := ⟨.templateAssertion, message⟩

end DocumentServer.Template
