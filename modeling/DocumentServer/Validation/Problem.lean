import DocumentServer.Value.Basic

/-!
Problems: why a value is not accepted where it stands. Each problem has a kind for programs and a
message for people.
-/
namespace DocumentServer.Validation

inductive Problem where
  | missing
  | extra
  | notText
  | notPath
  | notWhole
  /-- Text that is not the numeral of a whole number. -/
  | unreadableWhole
  | tooLongWhole
  | fraction
  | notFinite
  | notGreater (bound : Int)
  | notFlag
  /-- A number or a word that stands for neither yes nor no. -/
  | unreadableFlag
  | noChoice (choices : List String)
  | notObject
  | notModel (name : String)
  | notFields
  | refused (message : String)
  /-- JSON text that cannot be read, and why. -/
  | unreadableJson (reason : String)
  deriving DecidableEq, Repr

/-- A list of choices as it is read aloud. -/
def choicesText : List String → String
  | [] => ""
  | [only] => s!"'{only}'"
  | [first, last] => s!"'{first}' or '{last}'"
  | first :: rest => s!"'{first}', {choicesText rest}"

namespace Problem

def kind : Problem → String
  | .missing => "missing"
  | .extra => "extra_forbidden"
  | .notText => "string_type"
  | .notPath => "path_type"
  | .notWhole => "int_type"
  | .unreadableWhole => "int_parsing"
  | .tooLongWhole => "int_parsing_size"
  | .fraction => "int_from_float"
  | .notFinite => "finite_number"
  | .notGreater _ => "greater_than"
  | .notFlag => "bool_type"
  | .unreadableFlag => "bool_parsing"
  | .noChoice _ => "literal_error"
  | .notObject => "dict_type"
  | .notModel _ => "model_type"
  | .notFields => "model_attributes_type"
  | .refused _ => "value_error"
  | .unreadableJson _ => "json_invalid"

def message : Problem → String
  | .missing => "Field required"
  | .extra => "Extra inputs are not permitted"
  | .notText => "Input should be a valid string"
  | .notPath => "Input is not a valid path for <class 'pathlib.Path'>"
  | .notWhole => "Input should be a valid integer"
  | .unreadableWhole => "Input should be a valid integer, unable to parse string as an integer"
  | .tooLongWhole => "Unable to parse input string as an integer, exceeded maximum size"
  | .fraction => "Input should be a valid integer, got a number with a fractional part"
  | .notFinite => "Input should be a finite number"
  | .notGreater bound => s!"Input should be greater than {bound}"
  | .notFlag => "Input should be a valid boolean"
  | .unreadableFlag => "Input should be a valid boolean, unable to interpret input"
  | .noChoice choices =>
    let shown := choicesText choices
    s!"Input should be {shown}"
  | .notObject => "Input should be a valid dictionary"
  | .notModel name => s!"Input should be a valid dictionary or instance of {name}"
  | .notFields => "Input should be a valid dictionary or object to extract fields from"
  | .refused message => s!"Value error, {message}"
  | .unreadableJson _ => "JSON decode error"

end Problem

/-- A problem with the value at a place. -/
structure Issue where
  place : List String
  problem : Problem
  input : Value

end DocumentServer.Validation
