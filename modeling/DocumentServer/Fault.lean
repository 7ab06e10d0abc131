/-!
Faults: why an evaluation, a file access or a conversion could not go on. A fault has a cause and a
message; the cause has a name that callers are told.
-/
namespace DocumentServer

inductive Cause where
  | wrongType
  | wrongValue
  | divisionByZero
  | overflow
  | missingAttribute
  | missingKey
  | recursionLimit
  | runtime
  | system
  | fileMissing
  | fileExists
  | isDirectory
  | notDirectory
  | undecodable
  | undefinedValue
  | templateSyntax
  | templateAssertion
  | templateMissing
  | templatesMissing
  | templateRuntime
  | filterValue
  | metadata
  | invalidInput
  | sourceSyntax
  | decimalOperation
  | decimalDivision
  | assertion
  deriving DecidableEq, Repr

def Cause.label : Cause → String
  | .wrongType => "TypeError"
  | .wrongValue => "ValueError"
  | .divisionByZero => "ZeroDivisionError"
  | .overflow => "OverflowError"
  | .missingAttribute => "AttributeError"
  | .missingKey => "KeyError"
  | .recursionLimit => "RecursionError"
  | .runtime => "RuntimeError"
  | .system => "OSError"
  | .fileMissing => "FileNotFoundError"
  | .fileExists => "FileExistsError"
  | .isDirectory => "IsADirectoryError"
  | .notDirectory => "NotADirectoryError"
  | .undecodable => "UnicodeDecodeError"
  | .undefinedValue => "UndefinedError"
  | .templateSyntax => "TemplateSyntaxError"
  | .templateAssertion => "TemplateAssertionError"
  | .templateMissing => "TemplateNotFound"
  | .templatesMissing => "TemplatesNotFound"
  | .templateRuntime => "TemplateRuntimeError"
  | .filterValue => "TemplateFilterError"
  | .metadata => "_MetadataError"
  | .invalidInput => "ValidationError"
  | .sourceSyntax => "SyntaxError"
  | .decimalOperation => "InvalidOperation"
  | .decimalDivision => "DivisionByZero"
  | .assertion => "AssertionError"

structure Fault where
  cause : Cause
  message : String
  deriving DecidableEq, Repr

namespace Fault

def wrongType (message : String) : Fault := ⟨.wrongType, message⟩

def wrongValue (message : String) : Fault := ⟨.wrongValue, message⟩

def overflow (message : String) : Fault := ⟨.overflow, message⟩

def undefinedValue (message : String) : Fault := ⟨.undefinedValue, message⟩

def invalidInput (message : String) : Fault := ⟨.invalidInput, message⟩

end Fault
end DocumentServer
