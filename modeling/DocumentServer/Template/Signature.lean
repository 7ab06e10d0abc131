import DocumentServer.Association
import DocumentServer.Fault
import DocumentServer.Text.Quoted
import DocumentServer.Value.Basic

/-!
Signatures: which arguments an operation takes, and how given arguments are matched with them.
-/
namespace DocumentServer.Template

/-- The arguments of a call. -/
structure Given where
  positional : List Value
  named : Association String Value

structure Signature where
  name : String
  /-- Parameters by position; those without a default are required. -/
  parameters : List (String × Option Value)
  /-- Parameters that can be given by name only, and the values they have by default. -/
  namedOnly : List (String × Value)

namespace Signature

def ofNames (name : String) (required : List String) (optional : List (String × Value)) :
    Signature :=
  { name
    parameters := required.map (·, none) ++ optional.map fun (n, v) => (n, some v)
    namedOnly := [] }

def countText (n : Nat) (word : String) : String :=
  if n == 1 then s!"{n} {word}" else s!"{n} {word}s"

/-- Names in quotation marks, joined as in a sentence. -/
def sentence : List String → String
  | [] => ""
  | [a] => Text.quote a
  | [a, b] => s!"{Text.quote a} and {Text.quote b}"
  | names =>
    let quoted := names.map Text.quote
    String.intercalate ", " quoted.dropLast ++ ", and " ++ quoted.getLast?.getD ""

def tooMany (s : Signature) (count : Nat) : Fault :=
  let most := s.parameters.length
  let least := (s.parameters.filter (·.2.isNone)).length
  let range := if least < most then s!"from {least} to {most}" else toString most
  let word := if least < most || most != 1 then "positional arguments" else "positional argument"
  let verb := if count == 1 && s.namedOnly.isEmpty then "was" else "were"
  let given := if s.namedOnly.isEmpty then toString count
    else
      countText count "positional argument" ++ " (and "
        ++ countText s.namedOnly.length "keyword-only argument" ++ ")"
  .wrongType s!"{s.name}() takes {range} {word} but {given} {verb} given"

def lacking (s : Signature) (names : List String) : Fault :=
  let word := countText names.length "required positional argument"
  .wrongType s!"{s.name}() missing {word}: {sentence names}"

/-- A value under a name that was given twice, or that no parameter has. -/
def checkNames (s : Signature) (given : Given) : Except Fault Unit :=
  let taken := (s.parameters.take given.positional.length).map (·.1)
  let known := s.parameters.map (·.1) ++ s.namedOnly.map (·.1)
  given.named.forM fun (name, _) =>
    if !known.contains name then
      .error (.wrongType s!"{s.name}() got an unexpected keyword argument {Text.quote name}")
    else if taken.contains name then
      .error (.wrongType s!"{s.name}() got multiple values for argument {Text.quote name}")
    else .ok ()

def valueOf (given : Given) (parameter : (String × Option Value) × Nat) : Option Value :=
  let ((name, default), index) := parameter
  (given.positional[index]?.or (Association.get? name given.named)).or default

/-- The values of all parameters in order, those that go by name last. -/
def bind (s : Signature) (given : Given) : Except Fault (List Value) := do
  s.checkNames given
  if given.positional.length > s.parameters.length then
    throw (s.tooMany given.positional.length)
  let numbered := s.parameters.zipIdx
  let without := numbered.filter fun p => (valueOf given p).isNone
  if !without.isEmpty then throw (s.lacking (without.map (·.1.1)))
  let values := numbered.filterMap (valueOf given)
  let named := s.namedOnly.map fun (name, default) =>
    (Association.get? name given.named).getD default
  return values ++ named

end Signature
end DocumentServer.Template
