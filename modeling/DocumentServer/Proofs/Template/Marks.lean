import DocumentServer.Proofs.Template.Literal
import DocumentServer.Template.Lexer

/-!
Where the tags of a template begin and end, and how long what is inside of them is, when references
are rewritten. No mark of a tag has a slash in it, so dots change nothing of this.
-/
namespace DocumentServer.Template.Scanner
open Markup

variable {before : Option Char} {s rest word : List Char} {mark c : Char} {plus : Bool} {n : Nat}

theorem steady_blank : Steady blankLength := steady_takeWhile (by decide) (by decide)

/-- The sign that controls white space is measured as the sign of an exponent. -/
theorem signLength_eq (s : List Char) : signLength s = Literal.signOf s := by
  unfold signLength Literal.signOf
  grind

theorem steady_sign : Steady signLength := by
  rw [funext signLength_eq]
  exact Literal.steady_sign

/-! ## The ends of tags -/

/-- A length that may not be there, and that dots do not change. -/
structure SteadyOption (size? : List Char → Option Nat) : Prop where
  same : ∀ before s, size? (rewriteFrom before s) = size? s
  slashless : ∀ {s : List Char} {n}, size? s = some n → '/' ∉ s.take n

theorem SteadyOption.of_steady {size : List Char → Nat} (steady : Steady size) :
    SteadyOption fun s => some (size s) := by
  refine ⟨fun before s => congrArg some (steady.same before s), ?_⟩
  rintro s n ⟨⟩
  exact steady.slashless s

theorem SteadyOption.drop {size? : List Char → Option Nat} (steady : SteadyOption size?)
    (found : size? s = some n) (before : Option Char) :
    (rewriteFrom before s).drop n = rewriteFrom (lastBefore before n s) (s.drop n) :=
  drop_rewriteFrom (no_dots_of_slashless (steady.slashless found) before)

/-- One length, and another one behind it. -/
def both (first second : List Char → Option Nat) (s : List Char) : Option Nat :=
  (first s).bind fun n => (second (s.drop n)).map (n + ·)

theorem SteadyOption.both {first second : List Char → Option Nat} (begins : SteadyOption first)
    (ends : SteadyOption second) : SteadyOption (both first second) := by
  constructor
  · intro before s
    rw [Scanner.both, Scanner.both, begins.same]
    cases found : first s with
    | none => rfl
    | some n => rw [Option.bind_some, Option.bind_some, begins.drop found, ends.same]
  · intro s n found
    obtain ⟨m, front, found⟩ := Option.bind_eq_some_iff.1 found
    obtain ⟨k, back, rfl⟩ := Option.map_eq_some_iff.1 found
    rw [List.take_add, List.mem_append, not_or]
    exact ⟨begins.slashless front, ends.slashless back⟩

/-- The mark at the end of a tag stands here, behind any sign. -/
def closes (mark : Char) : List Char → Bool
  | c :: d :: _ => c == mark && d == '}'
  | _ => false

theorem closes_iff : closes mark s = true ↔ ∃ rest, s = mark :: '}' :: rest := by
  rcases s with - | ⟨c, - | ⟨d, rest⟩⟩ <;> simp [closes]

theorem closes_other (other : c ≠ mark) (rest : List Char) : closes mark (c :: rest) = false := by
  cases rest <;> simp [closes, other]

/-- A mark of a tag is no sign, and no reference begins with it or with what is put before. -/
abbrev IsMark (mark : Char) : Prop := mark ∉ ['-', '+', '.', '/']

theorem IsMark.ne (isMark : IsMark mark) : mark ≠ '-' ∧ mark ≠ '+' ∧ mark ≠ '.' ∧ mark ≠ '/' := by
  simpa [IsMark] using isMark

theorem rewriteFrom_closing (isMark : IsMark mark) (before : Option Char) (rest : List Char) :
    rewriteFrom before (mark :: '}' :: rest) = mark :: '}' :: rewriteFrom (some '}') rest := by
  rw [rewriteFrom_other isMark.ne.2.2.2, rewriteFrom_other (by decide)]

theorem closes_rewriteFrom (isMark : IsMark mark) (before : Option Char) (s : List Char) :
    closes mark (rewriteFrom before s) = closes mark s := by
  cases s with
  | nil => rfl
  | cons c rest =>
      by_cases other : c = mark
      · subst other
        rw [rewriteFrom_other isMark.ne.2.2.2]
        cases rest with
        | nil => rfl
        | cons d rest =>
            rw [rewriteFrom_cons]
            split
            · next dotted => simp [closes, slash_of_getsDot dotted]
            · rfl
      · rw [closes_other other, rewriteFrom_cons]
        split
        · exact closes_other isMark.ne.2.2.1.symm _
        · exact closes_other other _

theorem tagEnd?_minus (isMark : IsMark mark) (plus : Bool) (s : List Char) :
    tagEnd? mark plus ('-' :: s) =
      if closes mark s then some (3 + blankLength (s.drop 2)) else none := by
  have other : ('-' == mark) = false := beq_eq_false_iff_ne.2 isMark.ne.1.symm
  rcases s with - | ⟨c, - | ⟨d, rest⟩⟩
  · rfl
  · by_cases brace : c = '}' <;> simp [tagEnd?, closes, brace, other]
  · by_cases brace : d = '}'
    · simp [tagEnd?, closes, brace]
    · by_cases first : c = '}' <;> simp [tagEnd?, closes, brace, first, other]

theorem tagEnd?_plus (isMark : IsMark mark) (plus : Bool) (s : List Char) :
    tagEnd? mark plus ('+' :: s) = if closes mark s && plus then some 3 else none := by
  have other : ('+' == mark) = false := beq_eq_false_iff_ne.2 isMark.ne.2.1.symm
  rcases s with - | ⟨c, - | ⟨d, rest⟩⟩
  · rfl
  · by_cases brace : c = '}' <;> simp [tagEnd?, closes, brace, other]
  · by_cases brace : d = '}'
    · simp [tagEnd?, closes, brace]
    · by_cases first : c = '}' <;> simp [tagEnd?, closes, brace, first, other]

theorem tagEnd?_other (minus : c ≠ '-') (other : c ≠ '+') (mark : Char) (plus : Bool)
    (s : List Char) :
    tagEnd? mark plus (c :: s) = if closes mark (c :: s) then some 2 else none := by
  cases s with
  | nil => simp [tagEnd?, closes]
  | cons d rest =>
      by_cases brace : d = '}' <;> simp [tagEnd?, closes, brace, minus, other]

/-- The characters at the end of a tag. -/
theorem tagEnd?_eq_some (isMark : IsMark mark) (found : tagEnd? mark plus s = some n) :
    ∃ rest, s = '-' :: mark :: '}' :: rest ∧ n = 3 + blankLength rest
      ∨ s = '+' :: mark :: '}' :: rest ∧ n = 3
      ∨ s = mark :: '}' :: rest ∧ n = 2 := by
  cases s with
  | nil => cases found
  | cons c rest =>
      by_cases minus : c = '-'
      · subst minus
        rw [tagEnd?_minus isMark, Option.ite_none_right_eq_some, Option.some.injEq,
          closes_iff] at found
        obtain ⟨⟨more, rfl⟩, rfl⟩ := found
        exact ⟨more, .inl ⟨rfl, rfl⟩⟩
      by_cases sign : c = '+'
      · subst sign
        rw [tagEnd?_plus isMark, Option.ite_none_right_eq_some, Option.some.injEq, Bool.and_eq_true,
          closes_iff] at found
        obtain ⟨⟨⟨more, rfl⟩, -⟩, rfl⟩ := found
        exact ⟨more, .inr (.inl ⟨rfl, rfl⟩)⟩
      · rw [tagEnd?_other minus sign, Option.ite_none_right_eq_some, Option.some.injEq,
          closes_iff] at found
        obtain ⟨⟨more, same⟩, rfl⟩ := found
        exact ⟨more, .inr (.inr ⟨same, rfl⟩)⟩

theorem steady_tagEnd (isMark : IsMark mark) (plus : Bool) : SteadyOption (tagEnd? mark plus) := by
  obtain ⟨noMinus, noPlus, noDot, noSlash⟩ := isMark.ne
  constructor
  · intro before s
    cases s with
    | nil => rfl
    | cons c rest =>
        by_cases minus : c = '-'
        · subst minus
          rw [rewriteFrom_other (by decide), tagEnd?_minus isMark, tagEnd?_minus isMark,
            closes_rewriteFrom isMark]
          split
          · next closing =>
              obtain ⟨more, rfl⟩ := closes_iff.1 closing
              rw [rewriteFrom_closing isMark]
              exact congrArg (fun size => some (3 + size)) (steady_blank.same _ more)
          · rfl
        by_cases sign : c = '+'
        · subst sign
          rw [rewriteFrom_other (by decide), tagEnd?_plus isMark, tagEnd?_plus isMark,
            closes_rewriteFrom isMark]
        rw [tagEnd?_other minus sign, ← closes_rewriteFrom isMark before, rewriteFrom_cons]
        split
        · exact tagEnd?_other (by decide) (by decide) mark plus _
        · exact tagEnd?_other minus sign mark plus _
  · intro s n found
    obtain ⟨rest, ⟨rfl, rfl⟩ | ⟨rfl, rfl⟩ | ⟨rfl, rfl⟩⟩ := tagEnd?_eq_some isMark found
    · simpa [Nat.add_comm 3, noSlash.symm] using steady_blank.slashless rest
    · simp [noSlash.symm]
    · simp [noSlash.symm]

/-! ## Statements of one word -/

/-- The length of a word, if it stands here. -/
def wordHere? (word s : List Char) : Option Nat :=
  if word.isPrefixOf s then some word.length else none

theorem steady_wordHere (dot : '.' ∉ word) (slash : '/' ∉ word) : SteadyOption (wordHere? word) := by
  have alike (before : Option Char) (s : List Char) :
      word.isPrefixOf (rewriteFrom before s) = word.isPrefixOf s := by
    induction word generalizing before s with
    | nil => simp
    | cons letter word ih =>
        rw [List.mem_cons, not_or] at dot slash
        cases s with
        | nil => rfl
        | cons c rest =>
            rw [rewriteFrom_cons]
            split
            · next dotted =>
                have noDot : (letter == '.') = false := beq_false_of_ne fun same => dot.1 same.symm
                have noSlash : (letter == '/') = false :=
                  beq_false_of_ne fun same => slash.1 same.symm
                simp [List.isPrefixOf_cons_cons, slash_of_getsDot dotted, noDot, noSlash]
            · rw [List.isPrefixOf_cons_cons, List.isPrefixOf_cons_cons, ih dot.2 slash.2]
  constructor
  · intro before s
    rw [wordHere?, alike, wordHere?]
  · intro s n found
    rw [wordHere?, Option.ite_none_right_eq_some, List.isPrefixOf_iff_prefix,
      Option.some.injEq] at found
    obtain ⟨here, rfl⟩ := found
    rw [← List.prefix_iff_eq_take.1 here]
    exact slash

/-- The length of a word with all that may stand around it, up to the end of its tag. -/
def wordInside? (word : List Char) (plus : Bool) : List Char → Option Nat :=
  both (fun s => some (signLength s)) (both (fun s => some (blankLength s))
    (both (wordHere? word) (both (fun s => some (blankLength s)) (tagEnd? '%' plus))))

theorem steady_wordInside (dot : '.' ∉ word) (slash : '/' ∉ word) (plus : Bool) :
    SteadyOption (wordInside? word plus) := by
  have blank : SteadyOption fun s => some (blankLength s) := .of_steady steady_blank
  have word := steady_wordHere dot slash
  have ending : SteadyOption (tagEnd? '%' plus) := steady_tagEnd (by decide) plus
  exact (SteadyOption.of_steady steady_sign).both (blank.both (word.both (blank.both ending)))

theorem wordTag?_begin (word : List Char) (plus : Bool) (inside : List Char) :
    wordTag? word plus ('{' :: '%' :: inside) = (wordInside? word plus inside).map (2 + ·) := by
  simp only [wordTag?, wordInside?, both, wordHere?, Option.bind_some, List.drop_drop]
  split
  · simp only [Option.bind_some, Option.map_map]
    split
    · next size found =>
        rw [found, Option.map_some, Option.some.injEq]
        simp only [Function.comp_apply]
        omega
    · next none => rw [none, Option.map_none]
  · rfl

theorem wordTag?_other (first : c ≠ '{') (word : List Char) (plus : Bool) (rest : List Char) :
    wordTag? word plus (c :: rest) = none := by
  simp [wordTag?, first]

theorem wordTag?_second (second : c ≠ '%') (word : List Char) (plus : Bool) (first : Char)
    (rest : List Char) : wordTag? word plus (first :: c :: rest) = none := by
  simp [wordTag?, second]

theorem wordTag?_eq_some (found : wordTag? word plus s = some n) :
    ∃ inside size, s = '{' :: '%' :: inside ∧ wordInside? word plus inside = some size
      ∧ n = 2 + size := by
  unfold wordTag? at found
  split at found
  · next inside =>
      have whole : wordTag? word plus ('{' :: '%' :: inside) = some n := found
      rw [wordTag?_begin, Option.map_eq_some_iff] at whole
      obtain ⟨size, here, rfl⟩ := whole
      exact ⟨inside, size, rfl, here, rfl⟩
  · cases found

theorem steady_wordTag (dot : '.' ∉ word) (slash : '/' ∉ word) (plus : Bool) :
    SteadyOption (wordTag? word plus) := by
  have inside := steady_wordInside dot slash plus
  constructor
  · intro before s
    cases s with
    | nil => rfl
    | cons c rest =>
        by_cases first : c = '{'
        · subst first
          rw [rewriteFrom_other (by decide)]
          cases rest with
          | nil => rfl
          | cons d rest =>
              by_cases second : d = '%'
              · subst second
                rw [rewriteFrom_other (by decide), wordTag?_begin, wordTag?_begin, inside.same]
              · rw [wordTag?_second second, rewriteFrom_cons]
                split
                · exact wordTag?_second (by decide) word plus _ _
                · exact wordTag?_second second word plus _ _
        · rw [wordTag?_other first, rewriteFrom_cons]
          split
          · exact wordTag?_other (by decide) word plus _
          · exact wordTag?_other first word plus _
  · intro s n found
    obtain ⟨rest, size, rfl, here, rfl⟩ := wordTag?_eq_some found
    rw [Nat.add_comm, List.take_succ_cons, List.take_succ_cons]
    simpa using inside.slashless here

/-! ## Places -/

/-- A test of a place that dots do not change, and that holds at no reference. -/
structure Unmoved (test : List Char → Bool) : Prop where
  same : ∀ before s, test (rewriteFrom before s) = test s
  dot : ∀ rest, test ('.' :: rest) = false
  slash : ∀ rest, test ('/' :: rest) = false

theorem unmoved_tagStart : Unmoved isTagStart := by
  have other {c : Char} (first : c ≠ '{') (rest : List Char) : isTagStart (c :: rest) = false := by
    simp [isTagStart, first]
  refine ⟨?_, other (by decide), other (by decide)⟩
  intro before s
  cases s with
  | nil => rfl
  | cons c rest =>
      by_cases first : c = '{'
      · subst first
        rw [rewriteFrom_other (by decide)]
        cases rest with
        | nil => rfl
        | cons d rest =>
            rw [rewriteFrom_cons]
            split
            · next dotted =>
                rw [slash_of_getsDot dotted]
                rfl
            · rfl
      · rw [other first, rewriteFrom_cons]
        split
        · exact other (by decide) _
        · exact other first _

theorem unmoved_tagEnd (isMark : IsMark mark) (plus : Bool) :
    Unmoved fun s => (tagEnd? mark plus s).isSome := by
  refine ⟨fun before s => congrArg Option.isSome ((steady_tagEnd isMark plus).same before s), ?_, ?_⟩
  · intro rest
    rw [tagEnd?_other (by decide) (by decide), closes_other isMark.ne.2.2.1.symm]
    rfl
  · intro rest
    rw [tagEnd?_other (by decide) (by decide), closes_other isMark.ne.2.2.2.symm]
    rfl

theorem unmoved_wordTag (dot : '.' ∉ word) (slash : '/' ∉ word) (plus : Bool) :
    Unmoved fun s => (wordTag? word plus s).isSome := by
  refine ⟨fun before s => congrArg Option.isSome ((steady_wordTag dot slash plus).same before s),
    ?_, ?_⟩
  · intro rest
    rw [wordTag?_other (by decide)]
    rfl
  · intro rest
    rw [wordTag?_other (by decide)]
    rfl

theorem distanceTo_cons {test : List Char → Bool} (elsewhere : test (c :: rest) = false) :
    distanceTo test (c :: rest) = (distanceTo test rest).map (· + 1) := by
  rw [distanceTo, elsewhere]
  rfl

theorem distanceTo_eq_some {test : List Char → Bool} (found : distanceTo test s = some n) :
    test (s.drop n) = true := by
  induction s generalizing n with
  | nil =>
      rw [distanceTo, Option.ite_none_right_eq_some] at found
      rw [List.drop_nil]
      exact found.1
  | cons c rest ih =>
      cases here : test (c :: rest) with
      | true =>
          rw [distanceTo, if_pos here] at found
          cases found
          exact here
      | false =>
          rw [distanceTo_cons here, Option.map_eq_some_iff] at found
          obtain ⟨m, found, rfl⟩ := found
          exact ih found

/-- A place stays at the same part of the text. -/
theorem Unmoved.distanceTo {test : List Char → Bool} (unmoved : Unmoved test)
    (before : Option Char) (s : List Char) :
    distanceTo test (rewriteFrom before s) =
      (distanceTo test s).map fun n => (rewritePart before n s).length := by
  induction s generalizing before with
  | nil =>
      rw [rewriteFrom, Scanner.distanceTo]
      split <;> rfl
  | cons c rest ih =>
      cases dotted : getsDot before (c :: rest) with
      | true =>
          obtain rfl := slash_of_getsDot dotted
          rw [rewriteFrom_cons, if_pos dotted, distanceTo_cons (unmoved.dot _),
            distanceTo_cons (unmoved.slash _), distanceTo_cons (unmoved.slash _), ih]
          simp [Function.comp_def, rewritePart, dotted]
      | false =>
          have here := unmoved.same before (c :: rest)
          rw [rewriteFrom_plain dotted] at here ⊢
          rw [Scanner.distanceTo, Scanner.distanceTo, here, ih]
          split
          · rfl
          · simp [Function.comp_def, rewritePart, dotted]

end DocumentServer.Template.Scanner
