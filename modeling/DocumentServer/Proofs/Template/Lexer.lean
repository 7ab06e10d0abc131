import DocumentServer.Proofs.Template.Marks
import DocumentServer.Proofs.Template.Outline
import Mathlib.Data.Option.Basic

/-!
How a template with rewritten references is cut into tokens. As long as no reference that gets a
dot stands inside of a tag, the two scanners go side by side, and only data differs.
-/
namespace DocumentServer.Template.Scanner
open Markup

variable {s s' : Scanner} {n : Nat}

/-! ## Data -/

/-- Texts that make the same data, apart from what the text is. -/
structure SameSort (text text' : List Char) : Prop where
  empty : text'.isEmpty = text.isEmpty
  blank : text'.all Text.isBlank = text.all Text.isBlank

theorem sameSort_part (before : Option Char) (n : Nat) (s : List Char) :
    SameSort (s.take n) (rewritePart before n s) := by
  constructor
  · rw [Bool.eq_iff_iff, List.isEmpty_iff, List.isEmpty_iff]
    exact rewritePart_eq_nil
  · exact all_rewritePart (by decide) before n s

theorem trimEnd_isEmpty (text : List Char) : (trimEnd text).isEmpty = text.all Text.isBlank := by
  rw [Bool.eq_iff_iff, List.isEmpty_iff, trimEnd, List.reverse_eq_nil_iff,
    List.dropWhile_eq_nil_iff]
  simp

theorem all_trimEnd (text : List Char) :
    (trimEnd text).all Text.isBlank = text.all Text.isBlank := by
  have rest (l : List Char) : (l.dropWhile Text.isBlank).all Text.isBlank = l.all Text.isBlank :=
    calc
      _ = (l.takeWhile Text.isBlank ++ l.dropWhile Text.isBlank).all Text.isBlank := by
        rw [List.all_append, List.all_takeWhile, Bool.true_and]
      _ = l.all Text.isBlank := by rw [List.takeWhile_append_dropWhile]
  rw [trimEnd, List.all_reverse, rest, List.all_reverse]

theorem SameSort.trimEnd {text text' : List Char} (same : SameSort text text') :
    SameSort (trimEnd text) (trimEnd text') :=
  ⟨by rw [trimEnd_isEmpty, trimEnd_isEmpty, same.blank], by rw [all_trimEnd, all_trimEnd, same.blank]⟩

theorem SameSort.dataBefore {text text' tag tag' : List Char} (same : SameSort text text')
    (sign : (tag'.drop 2).head? = some '-' ↔ (tag.drop 2).head? = some '-') :
    SameSort (dataBefore tag text) (dataBefore tag' text') := by
  unfold Scanner.dataBefore
  simp only [beq_iff_eq, sign]
  split
  · exact same.trimEnd
  · exact same

theorem outline_dataToken {text text' : List Char} (line : s'.line = s.line)
    (same : SameSort text text') :
    (s'.dataToken text').map Token.outline = (s.dataToken text).map Token.outline := by
  unfold dataToken
  rw [same.empty]
  split
  · rfl
  · simp [Token.outline, Lexeme.outline, outlineText, same.blank, line]

/-! ## Going side by side -/

/-- A scanner, and one that reads the same text with its references rewritten. -/
structure Rewritten (s s' : Scanner) : Prop where
  rest : s'.rest = rewriteFrom s.previous s.rest
  line : s'.line = s.line
  previous : s'.previous = s.previous
  mode : s'.mode = s.mode
  open_ : s'.open_ = s.open_

theorem Rewritten.enter (side : Rewritten s s') (mode : Mode) :
    Rewritten (s.enter mode) (s'.enter mode) :=
  ⟨side.rest, side.line, side.previous, rfl, rfl⟩

/-- Passing over a part in which no reference gets a dot. -/
theorem Rewritten.skip (side : Rewritten s s') (none : dotsWithin s.previous n s.rest = false) :
    Rewritten (s.skip n) (s'.skip n) := by
  have taken : s'.rest.take n = s.rest.take n := by rw [side.rest, take_rewriteFrom none]
  refine ⟨?_, ?_, ?_, side.mode, side.open_⟩
  · exact (congrArg (List.drop n) side.rest).trans (drop_rewriteFrom none)
  · simp only [Scanner.skip, taken, side.line]
  · simp only [Scanner.skip, taken, side.previous]

theorem Rewritten.takenPart (side : Rewritten s s') (n : Nat) :
    s'.rest.take (rewritePart s.previous n s.rest).length = rewritePart s.previous n s.rest := by
  rw [side.rest, rewriteFrom_split s.previous n s.rest, List.take_left]

/-- Passing over any part; the dots in it are passed over too. -/
theorem Rewritten.skipPart (side : Rewritten s s') (n : Nat) :
    Rewritten (s.skip n) (s'.skip (rewritePart s.previous n s.rest).length) := by
  have whole := side.rest.trans (rewriteFrom_split s.previous n s.rest)
  have taken := side.takenPart n
  refine ⟨?_, ?_, ?_, side.mode, side.open_⟩
  · simp only [Scanner.skip, whole, List.drop_left]
    rfl
  · simp only [Scanner.skip, taken, side.line, newlines]
    rw [countP_rewritePart (by decide)]
  · simp only [Scanner.skip, taken, side.previous, getLast?_rewritePart]

theorem skip_skip (s : Scanner) (n m : Nat) : (s.skip n).skip m = s.skip (n + m) := by
  simp only [skip, List.drop_drop, List.take_add, List.length_append, newlines, List.countP_append,
    List.getLast?_append, Nat.add_assoc, Option.or_assoc]

/-- Steps that give the same tokens, apart from data, and go on side by side. -/
structure Follows (found found' : List Token × Option Scanner) : Prop where
  tokens : found'.1.map Token.outline = found.1.map Token.outline
  next : Option.Rel Rewritten found.2 found'.2

/-- How much of the text a step leaves. -/
def left (found : List Token × Option Scanner) : Nat := found.2.elim 0 (·.rest.length)

/-- No reference that gets a dot stands in what a step takes. -/
def Keeps (s : Scanner) (found : List Token × Option Scanner) : Prop :=
  dotsWithin s.previous (s.rest.length - left found) s.rest = false

/-- A step that goes on behind so many characters, or not at all. -/
def Takes (s : Scanner) (n : Nat) (found : List Token × Option Scanner) : Prop :=
  ∀ next ∈ found.2, next.rest = s.rest.drop n

theorem Keeps.within {found : List Token × Option Scanner} (keeps : s.Keeps found)
    (takes : s.Takes n found) : dotsWithin s.previous n s.rest = false := by
  obtain ⟨tokens, - | next⟩ := found
  · exact no_dots_of_none keeps n
  · rw [Keeps, left, Option.elim_some, takes next rfl, dotsWithin_taken] at keeps
    exact keeps

/-! ## Inside of a tag -/

theorem emit_takes (s : Scanner) (size : Nat) (lexeme : Lexeme) :
    s.Takes size (s.emit size lexeme) := by
  rintro next ⟨⟩
  rfl

theorem fail_takes (s : Scanner) (message : String) : s.Takes n (s.fail message) := by
  rintro next ⟨⟩

theorem Rewritten.emit (side : Rewritten s s') (none : dotsWithin s.previous n s.rest = false)
    (lexeme : Lexeme) : Follows (s.emit n lexeme) (s'.emit n lexeme) :=
  ⟨by simp [Scanner.emit, side.line], .some (side.skip none)⟩

theorem Rewritten.fail (side : Rewritten s s') (message message' : String) :
    Follows (s.fail message) (s'.fail message') :=
  ⟨by simp [Scanner.fail, Token.outline, Lexeme.outline, side.line], .none⟩

theorem scanName_takes (s : Scanner) (name : List Char) : s.Takes name.length (s.scanName name) := by
  unfold scanName
  split
  · exact emit_takes s _ _
  · exact fail_takes s _

theorem Rewritten.scanName (side : Rewritten s s') {name : List Char}
    (none : dotsWithin s.previous name.length s.rest = false) :
    Follows (s.scanName name) (s'.scanName name) := by
  unfold Scanner.scanName
  split
  · exact side.emit none _
  · exact side.fail _ _

/-- The brackets that are open behind an operator, or what is wrong with it. -/
def bracketsAfter (sign brackets : List Char) : Except String (List Char) :=
  match sign with
  | [c] =>
    match closing? c with
    | some close => .ok (close :: brackets)
    | none =>
      if isClosing c then
        match brackets with
        | [] => .error s!"unexpected '{c}'"
        | expected :: others =>
          if expected == c then .ok others
          else .error s!"unexpected '{c}', expected '{expected}'"
      else .ok brackets
  | _ => .ok brackets

theorem scanOperator_eq (s : Scanner) (size : Nat) :
    s.scanOperator size =
      match bracketsAfter (s.rest.take size) s.open_ with
      | .ok brackets =>
        ({ s with open_ := brackets }).emit size (.operator (.ofList (s.rest.take size)))
      | .error message => s.fail message := by
  unfold scanOperator bracketsAfter
  dsimp only
  generalize s.rest.take size = sign
  match sign with
  | [] => rfl
  | _ :: _ :: _ => rfl
  | [c] =>
      dsimp only
      cases closing? c with
      | some close => rfl
      | none =>
          dsimp only
          split
          · cases brackets : s.open_ with
            | nil => rfl
            | cons expected others =>
                dsimp only
                split <;> rfl
          · rfl

theorem scanOperator_takes (s : Scanner) (size : Nat) : s.Takes size (s.scanOperator size) := by
  rw [scanOperator_eq]
  split
  · exact emit_takes _ _ _
  · exact fail_takes s _

theorem Rewritten.opened (side : Rewritten s s') (brackets : List Char) :
    Rewritten { s with open_ := brackets } { s' with open_ := brackets } :=
  ⟨side.rest, side.line, side.previous, side.mode, rfl⟩

theorem Rewritten.taken (side : Rewritten s s') (none : dotsWithin s.previous n s.rest = false) :
    s'.rest.take n = s.rest.take n := by
  rw [side.rest, take_rewriteFrom none]

theorem Rewritten.scanOperator (side : Rewritten s s')
    (none : dotsWithin s.previous n s.rest = false) :
    Follows (s.scanOperator n) (s'.scanOperator n) := by
  rw [scanOperator_eq, scanOperator_eq, side.taken none, side.open_]
  cases bracketsAfter (s.rest.take n) s.open_ with
  | ok brackets => exact Rewritten.emit (side.opened brackets) none _
  | error message => exact side.fail _ _

/-- The text between the marks of quoted text. -/
def quotedBody (s : Scanner) (size : Nat) : List Char :=
  Text.unifyNewlineChars (((s.rest.take size).drop 1).take (size - 2))

theorem scanQuoted_eq (s : Scanner) (size : Nat) :
    s.scanQuoted size =
      match Literal.unescape (s.quotedBody size).length (s.quotedBody size) with
      | .ok chars => s.emit size (.text (.ofList chars))
      | .error fault => ([{ line := s.line, lexeme := .malformed fault }], none) := by
  have body : ((s.rest.take size).drop 1).take (size - 2) = (s.rest.drop 1).take (size - 2) := by
    rw [List.drop_take, List.take_take]
    congr 1
    omega
  rw [quotedBody, body]
  rfl

theorem scanQuoted_takes (s : Scanner) (size : Nat) : s.Takes size (s.scanQuoted size) := by
  rw [scanQuoted_eq]
  split
  · exact emit_takes s _ _
  · rintro next ⟨⟩

theorem Rewritten.scanQuoted (side : Rewritten s s')
    (none : dotsWithin s.previous n s.rest = false) :
    Follows (s.scanQuoted n) (s'.scanQuoted n) := by
  have body : s'.quotedBody n = s.quotedBody n := by rw [quotedBody, side.taken none, quotedBody]
  rw [scanQuoted_eq, scanQuoted_eq, body]
  split
  · exact side.emit none _
  · exact ⟨by simp [Token.outline, side.line], .none⟩

theorem quotedSize?_of_take {rest rest' : List Char} (found : quotedSize? rest = some n)
    (same : rest'.take n = rest.take n) : quotedSize? rest' = some n := by
  unfold quotedSize? at found
  split at found
  · next inside =>
      obtain ⟨m, closed, rfl⟩ := Option.map_eq_some_iff.1 found
      obtain ⟨more, rfl, behind⟩ := Literal.cons_of_take_succ same
      rw [quotedSize?, Literal.quotedLength_of_take (by decide) closed behind]
      rfl
  · next inside =>
      obtain ⟨m, closed, rfl⟩ := Option.map_eq_some_iff.1 found
      obtain ⟨more, rfl, behind⟩ := Literal.cons_of_take_succ same
      rw [quotedSize?, Literal.quotedLength_of_take (by decide) closed behind]
      rfl
  · cases found

theorem operatorLength_long {rest : List Char} (long : longOperators.contains (rest.take 2) = true) :
    operatorLength rest = 2 := by
  unfold operatorLength
  rw [if_pos long]

theorem operatorLength_short {c : Char} {rest : List Char}
    (short : longOperators.contains ((c :: rest).take 2) = false) :
    operatorLength (c :: rest) = if shortOperators.contains c then 1 else 0 := by
  unfold operatorLength
  rw [short]
  rfl

/-- An operator is as long as before if no dot is put into it. -/
theorem operatorLength_rewriteFrom {before : Option Char} {rest : List Char}
    (none : dotsWithin before (operatorLength rest) rest = false)
    (some : operatorLength rest ≠ 0) :
    operatorLength (rewriteFrom before rest) = operatorLength rest := by
  cases long : longOperators.contains (rest.take 2) with
  | true =>
      rw [operatorLength_long long] at none ⊢
      exact operatorLength_long (by rw [take_rewriteFrom none, long])
  | false =>
      cases rest with
      | nil => rfl
      | cons c tail =>
          rw [operatorLength_short long] at none some ⊢
          split at some
          · next short =>
              rw [if_pos short, dotsWithin, Bool.or_eq_false_iff] at none
              rw [rewriteFrom_plain none.1, operatorLength_short]
              cases tail with
              | nil => exact long
              | cons d more =>
                  rw [rewriteFrom_cons]
                  split
                  · simp [longOperators]
                  · exact long
          · exact absurd rfl some

/-! ## A token inside of a tag -/

/-- Quoted text or an operator. -/
def scanMark (s : Scanner) (first : Char) : List Token × Option Scanner :=
  match quotedSize? s.rest with
  | some size => s.scanQuoted size
  | none =>
    if operatorLength s.rest != 0 then s.scanOperator (operatorLength s.rest)
    else s.unexpectedChar first

def doubleSize (s : Scanner) : Nat :=
  if s.previous == some '.' then 0 else Literal.doubleLength s.rest

theorem scanInside_eq (s : Scanner) (first : Char) :
    s.scanInside first =
      if blankLength s.rest != 0 then ([], some (s.skip (blankLength s.rest)))
      else if s.doubleSize != 0 then
        s.emit s.doubleSize (.double (Literal.doubleValue (s.rest.take s.doubleSize)))
      else if (Literal.integerLength s.rest).1 != 0 then
        s.emit (Literal.integerLength s.rest).1
          (.integer (Literal.integerValue (Literal.integerLength s.rest).2
            (s.rest.take (Literal.integerLength s.rest).1)))
      else if !(s.rest.takeWhile nameChar).isEmpty then s.scanName (s.rest.takeWhile nameChar)
      else s.scanMark first := rfl

theorem quotedSize?_other {c : Char} (single : c ≠ '\'') (double : c ≠ '"') (rest : List Char) :
    quotedSize? (c :: rest) = none := by
  simp [quotedSize?, single, double]

theorem quotedSize?_of_operator {rest : List Char} (before : Option Char)
    (some : operatorLength rest ≠ 0) : quotedSize? (rewriteFrom before rest) = none := by
  have noOperator {c : Char} (quote : c = '\'' ∨ c = '"') (tail : List Char) :
      operatorLength (c :: tail) = 0 := by
    obtain rfl | rfl := quote <;> exact operatorLength_short (by simp [longOperators])
  cases rest with
  | nil => rfl
  | cons c tail =>
      have other : c ≠ '\'' ∧ c ≠ '"' := by
        rw [← not_or]
        exact fun quote => some (noOperator quote tail)
      rw [rewriteFrom_cons]
      split
      · exact quotedSize?_other (by decide) (by decide) _
      · exact quotedSize?_other other.1 other.2 _

theorem Rewritten.scanMark (side : Rewritten s s') {first first' : Char}
    (keeps : s.Keeps (s.scanMark first)) : Follows (s.scanMark first) (s'.scanMark first') := by
  unfold Scanner.scanMark at keeps ⊢
  cases quoted : quotedSize? s.rest with
  | some size =>
      rw [quoted] at keeps
      have none := keeps.within (scanQuoted_takes s size)
      rw [quotedSize?_of_take quoted (side.taken none)]
      exact side.scanQuoted none
  | none =>
      rw [quoted] at keeps
      dsimp only at keeps ⊢
      split at keeps
      · next operator =>
          have none := keeps.within (scanOperator_takes s _)
          have some : operatorLength s.rest ≠ 0 := by simpa using operator
          have size : operatorLength s'.rest = operatorLength s.rest := by
            rw [side.rest, operatorLength_rewriteFrom none some]
          rw [side.rest, quotedSize?_of_operator _ some, ← side.rest]
          dsimp only
          rw [size, if_pos operator, if_pos operator]
          exact side.scanOperator none
      · next operator =>
          have same : s'.rest = s.rest := by rw [side.rest, rewriteFrom_of_no_dots keeps]
          rw [same, quoted]
          dsimp only
          rw [if_neg operator, if_neg operator]
          exact side.fail _ _

theorem Rewritten.scanInside (side : Rewritten s s') (first first' : Char)
    (keeps : s.Keeps (s.scanInside first)) :
    Follows (s.scanInside first) (s'.scanInside first') := by
  have blanks : blankLength s'.rest = blankLength s.rest := by
    rw [side.rest, steady_blank.same]
  have doubles : s'.doubleSize = s.doubleSize := by
    rw [doubleSize, doubleSize, side.previous, side.rest, Literal.doubleLength_rewriteFrom]
  have integers : Literal.integerLength s'.rest = Literal.integerLength s.rest := by
    rw [side.rest, Literal.integerLength_rewriteFrom]
  have names : s'.rest.takeWhile nameChar = s.rest.takeWhile nameChar := by
    rw [side.rest, takeWhile_rewriteFrom (by decide) (by decide)]
  rw [scanInside_eq] at keeps ⊢
  rw [scanInside_eq, blanks, doubles, integers, names]
  split at keeps
  · next blank =>
      rw [if_pos blank, if_pos blank]
      refine ⟨rfl, .some (side.skip (keeps.within ?_))⟩
      rintro next ⟨⟩
      rfl
  next blank =>
  rw [if_neg blank, if_neg blank]
  split at keeps
  · next double =>
      have none := keeps.within (emit_takes s _ _)
      rw [if_pos double, if_pos double, side.taken none]
      exact side.emit none _
  next double =>
  rw [if_neg double, if_neg double]
  split at keeps
  · next integer =>
      have none := keeps.within (emit_takes s _ _)
      rw [if_pos integer, if_pos integer, side.taken none]
      exact side.emit none _
  next integer =>
  rw [if_neg integer, if_neg integer]
  split at keeps
  · next name =>
      rw [if_pos name, if_pos name]
      exact side.scanName (keeps.within (scanName_takes s _))
  next name =>
  rw [if_neg name, if_neg name]
  exact side.scanMark keeps

/-! ## Tags -/

/-- The length of the end of the tag, where no bracket is open. -/
def endingSize? (s : Scanner) (statement : Bool) : Option Nat :=
  if s.open_.isEmpty then
    if statement then tagEnd? '%' true s.rest else tagEnd? '}' false s.rest
  else none

theorem scanTag_eq (s : Scanner) (statement : Bool) :
    s.scanTag statement =
      match s.endingSize? statement, s.rest with
      | some size, _ =>
        ([{ line := s.line, lexeme := if statement then .blockEnd else .variableEnd }],
          some ((s.skip size).enter .data))
      | none, [] => ([], none)
      | none, c :: _ => s.scanInside c := by
  have ending : (if s.open_.isEmpty then
      if statement then tagEnd? '%' true s.rest else tagEnd? '}' false s.rest
    else none) = s.endingSize? statement := rfl
  unfold scanTag
  dsimp only
  rw [ending]
  cases s.endingSize? statement with
  | some size => rfl
  | none => cases rest : s.rest <;> rfl

theorem endingSize?_eq_some {statement : Bool} (found : s.endingSize? statement = some n) :
    ∃ mark plus, IsMark mark ∧ tagEnd? mark plus s.rest = some n := by
  rw [endingSize?, Option.ite_none_right_eq_some] at found
  cases statement with
  | true => exact ⟨'%', true, by decide, found.2⟩
  | false => exact ⟨'}', false, by decide, found.2⟩

theorem Rewritten.endingSize? (side : Rewritten s s') (statement : Bool) :
    s'.endingSize? statement = s.endingSize? statement := by
  unfold Scanner.endingSize?
  rw [side.open_, side.rest, (steady_tagEnd (by decide) true).same,
    (steady_tagEnd (by decide) false).same]

theorem Rewritten.scanTag (side : Rewritten s s') {statement : Bool}
    (keeps : s.Keeps (s.scanTag statement)) :
    Follows (s.scanTag statement) (s'.scanTag statement) := by
  rw [scanTag_eq] at keeps ⊢
  rw [scanTag_eq, side.endingSize?, side.line]
  cases ending : s.endingSize? statement with
  | some size =>
      obtain ⟨mark, plus, isMark, found⟩ := endingSize?_eq_some ending
      have none := no_dots_of_slashless ((steady_tagEnd isMark plus).slashless found) s.previous
      exact ⟨rfl, .some ((side.skip none).enter .data)⟩
  | none =>
      rw [ending] at keeps
      cases rest : s.rest with
      | nil =>
          have rest' : s'.rest = [] := by rw [side.rest, rest, rewriteFrom]
          rw [rest']
          exact ⟨rfl, .none⟩
      | cons c tail =>
          obtain ⟨c', tail', rest'⟩ : ∃ c' tail', s'.rest = c' :: tail' := by
            rw [side.rest, rest, rewriteFrom_cons]
            split <;> exact ⟨_, _, rfl⟩
          rw [rest] at keeps
          rw [rest']
          exact side.scanInside c c' keeps

end DocumentServer.Template.Scanner
