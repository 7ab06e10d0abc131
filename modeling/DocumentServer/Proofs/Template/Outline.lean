import DocumentServer.Template.Lexer
import DocumentServer.Template.Tree

/-!
Outlines of templates: what is left of a template when the text outside of its tags is forgotten,
apart from whether it is white space only.
-/
namespace DocumentServer.Template

def outlineText (text : String) : String := if text.toList.all Text.isBlank then "" else "text"

theorem all_isBlank_outlineText (text : String) :
    (outlineText text).toList.all Text.isBlank = text.toList.all Text.isBlank := by
  unfold outlineText
  split
  · next blank => exact blank.symm
  · next other =>
      rw [Bool.not_eq_true] at other
      rw [other]
      decide

namespace Lexeme

/-- Any fault stands for every other. -/
def outline : Lexeme → Lexeme
  | .data s => .data (outlineText s)
  | .malformed _ => .malformed (syntaxFault "")
  | other => other

end Lexeme

def Token.outline (t : Token) : Token := { line := t.line, lexeme := t.lexeme.outline }

def Piece.outline : Piece → Piece
  | .data text => .data (outlineText text)
  | .print line value => .print line value

mutual

/-- A statement without the text that it prints as it is. -/
def Stmt.outline : Stmt → Stmt
  | .output pieces => .output (pieces.map Piece.outline)
  | .branch arms otherwise => .branch (outlineArms arms) (outlineAll otherwise)
  | .loop line target items test isRecursive body otherwise =>
    .loop line target items test isRecursive (outlineAll body) (outlineAll otherwise)
  | .assign line target value => .assign line target value
  | .capture line target filter body => .capture line target filter (outlineAll body)
  | .block line name isScoped isRequired body =>
    .block line name isScoped isRequired (outlineAll body)
  | .extend line template => .extend line template
  | .insert line template ignoreMissing withContext =>
    .insert line template ignoreMissing withContext
  | .importModule line template name withContext => .importModule line template name withContext
  | .importNames line template names withContext => .importNames line template names withContext
  | .define line name parameters body => .define line name parameters (outlineAll body)
  | .callWith line parameters call body => .callWith line parameters call (outlineAll body)
  | .filtered line filter body => .filtered line filter (outlineAll body)
  | .bind bindings body => .bind bindings (outlineAll body)
  | .escaping enabled body => .escaping enabled (outlineAll body)

def outlineAll : List Stmt → List Stmt
  | [] => []
  | s :: rest => s.outline :: outlineAll rest

def outlineArms : List (Nat × Expr × List Stmt) → List (Nat × Expr × List Stmt)
  | [] => []
  | (line, test, body) :: rest => (line, test, outlineAll body) :: outlineArms rest

end

@[simp] theorem outlineAll_append (first rest : List Stmt) :
    outlineAll (first ++ rest) = outlineAll first ++ outlineAll rest := by
  induction first with
  | nil => rfl
  | cons s first ih => exact congrArg (s.outline :: ·) ih

@[simp] theorem outlineArms_append (first rest : List (Nat × Expr × List Stmt)) :
    outlineArms (first ++ rest) = outlineArms first ++ outlineArms rest := by
  induction first with
  | nil => rfl
  | cons arm first ih => exact congrArg ((arm.1, arm.2.1, outlineAll arm.2.2) :: ·) ih

end DocumentServer.Template
