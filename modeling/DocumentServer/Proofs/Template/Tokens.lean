import DocumentServer.Proofs.Template.Lexer

/-!
The tokens of a whole template with rewritten references, and when the references inside of tags
stay as they are.
-/
namespace DocumentServer.Template.Scanner
open Markup

variable {s s' : Scanner} {n : Nat}

/-! ## Outside of tags -/

theorem tag_at_place {text : List Char} (place : distanceTo isTagStart text = some n) :
    ∃ c inside, text.drop n = '{' :: c :: inside ∧ c ≠ '/' := by
  have start := distanceTo_eq_some place
  unfold isTagStart at start
  split at start
  · next c inside tag =>
      refine ⟨c, inside, tag, ?_⟩
      rintro rfl
      cases start
  · cases start

/-- What follows the data before a tag: the tag's first token and the place behind its start. -/
def tagBegin (atTag : Scanner) (c : Char) (inside : List Char) : List Token × Option Scanner :=
  match wordTag? rawWord false ('{' :: c :: inside) with
  | some size => ([], some ((atTag.skip size).enter .verbatim))
  | none =>
    let next := atTag.skip (2 + signLength inside)
    if c = '{' then ([{ line := atTag.line, lexeme := .variableBegin }], some (next.enter (.tag false)))
    else if c = '%' then ([{ line := atTag.line, lexeme := .blockBegin }], some (next.enter (.tag true)))
    else ([], some (next.enter .comment))

theorem scanData_eq {c : Char} {inside : List Char}
    (place : distanceTo isTagStart s.rest = some n) (tag : s.rest.drop n = '{' :: c :: inside) :
    s.scanData =
      (s.dataToken (dataBefore ('{' :: c :: inside) (s.rest.take n)) ++
        ((s.skip n).tagBegin c inside).1, ((s.skip n).tagBegin c inside).2) := by
  unfold scanData tagBegin
  rw [place]
  dsimp only
  rw [tag]
  cases wordTag? rawWord false ('{' :: c :: inside) with
  | some size => simp
  | none =>
      dsimp only [List.drop_succ_cons, List.drop_zero]
      by_cases first : c = '{'
      · subst first
        rfl
      by_cases second : c = '%'
      · subst second
        rfl
      rw [if_neg first, if_neg second]
      simp [first, second]

theorem Rewritten.tagBegin (atTag : Rewritten s s') {c : Char} {inside : List Char}
    (rest : s.rest = '{' :: c :: inside) (plain : c ≠ '/') :
    Follows (s.tagBegin c inside) (s'.tagBegin c (rewriteFrom (some c) inside)) := by
  have raw : SteadyOption (wordTag? rawWord false) := steady_wordTag (by decide) (by decide) false
  have tag : rewriteFrom s.previous ('{' :: c :: inside) =
      '{' :: c :: rewriteFrom (some c) inside := by
    rw [rewriteFrom_other (by decide), rewriteFrom_other plain]
  unfold Scanner.tagBegin
  rw [← tag, raw.same, steady_sign.same, atTag.line]
  cases word : wordTag? rawWord false ('{' :: c :: inside) with
  | some size =>
      have none := no_dots_of_slashless (raw.slashless word) s.previous
      rw [← rest] at none
      exact ⟨rfl, .some ((atTag.skip none).enter _)⟩
  | none =>
      have none : dotsWithin s.previous (2 + signLength inside) s.rest = false := by
        refine no_dots_of_slashless ?_ s.previous
        rw [rest, Nat.add_comm, List.take_succ_cons, List.take_succ_cons, List.mem_cons,
          List.mem_cons, not_or, not_or]
        exact ⟨by decide, plain.symm, steady_sign.slashless inside⟩
      dsimp only
      split
      · exact ⟨rfl, .some ((atTag.skip none).enter _)⟩
      · split
        · exact ⟨rfl, .some ((atTag.skip none).enter _)⟩
        · exact ⟨rfl, .some ((atTag.skip none).enter _)⟩

theorem sameSort_whole (before : Option Char) (text : List Char) :
    SameSort text (rewriteFrom before text) := by
  have parts := sameSort_part before text.length text
  rw [List.take_length, ← rewriteFrom_eq_part] at parts
  exact parts

theorem Rewritten.scanData (side : Rewritten s s') : Follows s.scanData s'.scanData := by
  have same := unmoved_tagStart.distanceTo s.previous s.rest
  rw [← side.rest] at same
  cases place : distanceTo isTagStart s.rest with
  | none =>
      rw [place, Option.map_none] at same
      unfold Scanner.scanData
      rw [place, same, side.rest]
      exact ⟨outline_dataToken side.line (sameSort_whole s.previous s.rest), .none⟩
  | some count =>
      rw [place, Option.map_some] at same
      obtain ⟨c, inside, tag, plain⟩ := tag_at_place place
      have atTag := side.skipPart count
      have tag' : s'.rest.drop (rewritePart s.previous count s.rest).length =
          '{' :: c :: rewriteFrom (some c) inside := by
        refine atTag.rest.trans ?_
        rw [show (s.skip count).rest = '{' :: c :: inside from tag, rewriteFrom_other (by decide),
          rewriteFrom_other plain]
      have follows := atTag.tagBegin tag plain
      rw [scanData_eq place tag, scanData_eq same tag']
      refine ⟨?_, follows.next⟩
      rw [List.map_append, List.map_append, follows.tokens]
      congr 1
      refine outline_dataToken side.line (SameSort.dataBefore ?_ ?_)
      · rw [side.takenPart]
        exact sameSort_part s.previous count s.rest
      · exact head?_rewriteFrom (by decide) (by decide) _ _

/-- A section whose end is found by a length: what the end looks like from both scanners. -/
theorem Rewritten.atEnd (side : Rewritten s s') {size? : List Char → Option Nat}
    (steady : SteadyOption size?) (unmoved : Unmoved fun t => (size? t).isSome)
    {count : Nat} (place : distanceTo (fun t => (size? t).isSome) s.rest = some count) :
    ∃ count', distanceTo (fun t => (size? t).isSome) s'.rest = some count'
      ∧ SameSort (s.rest.take count) (s'.rest.take count')
      ∧ s'.rest.drop count' = rewriteFrom (s.skip count).previous (s.rest.drop count)
      ∧ size? (s'.rest.drop count') = size? (s.rest.drop count)
      ∧ Rewritten (s.skip (count + (size? (s.rest.drop count)).getD 0))
          (s'.skip (count' + (size? (s.rest.drop count)).getD 0)) := by
  have atEnd := side.skipPart count
  have tag : s'.rest.drop (rewritePart s.previous count s.rest).length =
      rewriteFrom (s.skip count).previous (s.rest.drop count) := atEnd.rest
  refine ⟨(rewritePart s.previous count s.rest).length, ?_, ?_, tag, ?_, ?_⟩
  · rw [side.rest, unmoved.distanceTo, place, Option.map_some]
  · rw [side.takenPart]
    exact sameSort_part s.previous count s.rest
  · rw [tag, steady.same]
  · obtain ⟨size, found⟩ := Option.isSome_iff_exists.1 (distanceTo_eq_some place)
    rw [← skip_skip, ← skip_skip]
    refine atEnd.skip (no_dots_of_slashless ?_ _)
    rw [found, Option.getD_some]
    exact steady.slashless found

theorem Rewritten.nowhere (side : Rewritten s s') {size? : List Char → Option Nat}
    (unmoved : Unmoved fun t => (size? t).isSome)
    (nowhere : distanceTo (fun t => (size? t).isSome) s.rest = none) :
    distanceTo (fun t => (size? t).isSome) s'.rest = none := by
  rw [side.rest, unmoved.distanceTo, nowhere, Option.map_none]

theorem Rewritten.isEmpty (side : Rewritten s s') : s'.rest.isEmpty = s.rest.isEmpty := by
  rw [side.rest]
  exact (sameSort_whole s.previous s.rest).empty

theorem Rewritten.scanComment (side : Rewritten s s') : Follows s.scanComment s'.scanComment := by
  have isMark : IsMark '#' := by decide
  unfold Scanner.scanComment
  cases place : distanceTo (fun t => (tagEnd? '#' true t).isSome) s.rest with
  | some count =>
      obtain ⟨count', place', -, -, size, next⟩ :=
        side.atEnd (steady_tagEnd isMark true) (unmoved_tagEnd isMark true) place
      rw [place']
      dsimp only
      rw [size]
      exact ⟨rfl, .some (next.enter .data)⟩
  | none =>
      rw [side.nowhere (unmoved_tagEnd isMark true) place]
      dsimp only
      rw [side.isEmpty]
      split
      · exact ⟨rfl, .none⟩
      · exact side.fail _ _

theorem Rewritten.scanVerbatim (side : Rewritten s s') :
    Follows s.scanVerbatim s'.scanVerbatim := by
  have steady : SteadyOption (wordTag? endrawWord true) :=
    steady_wordTag (by decide) (by decide) true
  have unmoved : Unmoved fun t => (wordTag? endrawWord true t).isSome :=
    unmoved_wordTag (by decide) (by decide) true
  unfold Scanner.scanVerbatim
  cases place : distanceTo (fun t => (wordTag? endrawWord true t).isSome) s.rest with
  | some count =>
      obtain ⟨count', place', same, tag', size, next⟩ := side.atEnd steady unmoved place
      rw [place']
      dsimp only
      rw [size]
      refine ⟨outline_dataToken side.line (same.dataBefore ?_), .some (next.enter .data)⟩
      obtain ⟨found, word⟩ := Option.isSome_iff_exists.1 (distanceTo_eq_some place)
      obtain ⟨inside, -, tag, -, -⟩ := wordTag?_eq_some word
      rw [tag', tag, rewriteFrom_other (by decide), rewriteFrom_other (by decide)]
      exact head?_rewriteFrom (by decide) (by decide) _ _
  | none =>
      rw [side.nowhere unmoved place]
      dsimp only
      rw [side.isEmpty]
      split
      · exact ⟨rfl, .none⟩
      · exact side.fail _ _

/-! ## All steps -/

/-- Only what is inside of a tag has to be kept. -/
def keepsTag (s : Scanner) : Bool :=
  match s.mode with
  | .tag _ => !dotsWithin s.previous (s.rest.length - left s.step) s.rest
  | _ => true

theorem Rewritten.step (side : Rewritten s s') (keeps : s.keepsTag = true) :
    Follows s.step s'.step := by
  have tagged : ∀ {statement}, s.mode = .tag statement → s.Keeps (s.scanTag statement) := by
    intro statement mode
    rw [keepsTag, mode, Bool.not_eq_true', Scanner.step, mode] at keeps
    exact keeps
  unfold Scanner.step
  rw [side.mode]
  cases mode : s.mode with
  | data => exact side.scanData
  | comment => exact side.scanComment
  | verbatim => exact side.scanVerbatim
  | tag statement => exact side.scanTag (tagged mode)

/-! ## Every step takes something -/

theorem quotedSize?_pos {text : List Char} (quoted : quotedSize? text = some n) : 0 < n := by
  unfold quotedSize? at quoted
  split at quoted
  · obtain ⟨m, -, rfl⟩ := Option.map_eq_some_iff.1 quoted
    exact Nat.succ_pos m
  · obtain ⟨m, -, rfl⟩ := Option.map_eq_some_iff.1 quoted
    exact Nat.succ_pos m
  · cases quoted

theorem scanInside_takes (s : Scanner) (first : Char) :
    ∃ n, 0 < n ∧ s.Takes n (s.scanInside first) := by
  rw [scanInside_eq]
  split
  · next blank =>
      refine ⟨blankLength s.rest, Nat.pos_of_ne_zero (by simpa using blank), ?_⟩
      rintro next ⟨⟩
      rfl
  split
  · next double => exact ⟨_, Nat.pos_of_ne_zero (by simpa using double), emit_takes s _ _⟩
  split
  · next integer => exact ⟨_, Nat.pos_of_ne_zero (by simpa using integer), emit_takes s _ _⟩
  split
  · next name =>
      have letters : s.rest.takeWhile nameChar ≠ [] := by
        rintro none
        rw [none] at name
        cases name
      exact ⟨_, List.length_pos_iff.2 letters, scanName_takes s _⟩
  unfold scanMark
  split
  · next size quoted => exact ⟨size, quotedSize?_pos quoted, scanQuoted_takes s size⟩
  split
  · next operator => exact ⟨_, Nat.pos_of_ne_zero (by simpa using operator), scanOperator_takes s _⟩
  · exact ⟨1, Nat.one_pos, fail_takes s _⟩

theorem tagEnd?_pos {mark : Char} {plus : Bool} {text : List Char} (isMark : IsMark mark)
    (found : tagEnd? mark plus text = some n) : 0 < n ∧ text ≠ [] := by
  obtain ⟨rest, ⟨rfl, rfl⟩ | ⟨rfl, rfl⟩ | ⟨rfl, rfl⟩⟩ := tagEnd?_eq_some isMark found
  · exact ⟨by omega, List.cons_ne_nil _ _⟩
  · exact ⟨by omega, List.cons_ne_nil _ _⟩
  · exact ⟨by omega, List.cons_ne_nil _ _⟩

theorem wordTag?_pos {word : List Char} {plus : Bool} {text : List Char}
    (found : wordTag? word plus text = some n) : 0 < n ∧ text ≠ [] := by
  obtain ⟨inside, size, rfl, -, rfl⟩ := wordTag?_eq_some found
  exact ⟨by omega, List.cons_ne_nil _ _⟩

/-- Every step that goes on leaves less of the text. -/
def Shortens (s : Scanner) (found : List Token × Option Scanner) : Prop :=
  ∀ next ∈ found.2, next.rest.length < s.rest.length

theorem Takes.shortens {found : List Token × Option Scanner} (takes : s.Takes n found)
    (pos : 0 < n) (rest : s.rest ≠ []) : s.Shortens found := by
  intro next goes
  have length := List.length_pos_iff.2 rest
  rw [takes next goes, List.length_drop]
  omega

theorem tagBegin_takes (s : Scanner) (c : Char) (inside : List Char) :
    ∃ n, 0 < n ∧ s.Takes n (s.tagBegin c inside) := by
  unfold tagBegin
  split
  · next size word =>
      refine ⟨size, (wordTag?_pos word).1, ?_⟩
      rintro next ⟨⟩
      rfl
  · refine ⟨2 + signLength inside, by omega, ?_⟩
    dsimp only
    split
    · rintro next ⟨⟩
      rfl
    split
    · rintro next ⟨⟩
      rfl
    · rintro next ⟨⟩
      rfl

theorem scanData_shortens (s : Scanner) : s.Shortens s.scanData := by
  cases place : distanceTo isTagStart s.rest with
  | none =>
      unfold scanData
      rw [place]
      rintro next ⟨⟩
  | some count =>
      obtain ⟨c, inside, tag, -⟩ := tag_at_place place
      obtain ⟨size, pos, takes⟩ := tagBegin_takes (s.skip count) c inside
      rw [scanData_eq place tag]
      have behind : s.Takes (count + size) (s.dataToken (dataBefore ('{' :: c :: inside)
          (s.rest.take count)) ++ ((s.skip count).tagBegin c inside).1,
          ((s.skip count).tagBegin c inside).2) := by
        intro next goes
        rw [takes next goes, ← List.drop_drop]
        rfl
      refine behind.shortens (by omega) ?_
      rintro none
      rw [none, List.drop_nil] at tag
      cases tag

theorem sectionEnd_shortens {size? : List Char → Option Nat}
    (isSome : ∀ {text n}, size? text = some n → 0 < n ∧ text ≠ []) {count : Nat}
    (place : distanceTo (fun t => (size? t).isSome) s.rest = some count) (tokens : List Token)
    (mode : Mode) :
    s.Shortens
      (tokens, some ((s.skip (count + (size? (s.rest.drop count)).getD 0)).enter mode)) := by
  obtain ⟨size, found⟩ := Option.isSome_iff_exists.1 (distanceTo_eq_some place)
  obtain ⟨pos, rest⟩ := isSome found
  have takes : s.Takes (count + (size? (s.rest.drop count)).getD 0)
      (tokens, some ((s.skip (count + (size? (s.rest.drop count)).getD 0)).enter mode)) := by
    rintro next ⟨⟩
    rfl
  refine takes.shortens ?_ ?_
  · rw [found, Option.getD_some]
    omega
  · rintro none
    rw [none, List.drop_nil] at rest
    exact rest rfl

theorem scanComment_shortens (s : Scanner) : s.Shortens s.scanComment := by
  unfold scanComment
  split
  · next count place => exact sectionEnd_shortens (tagEnd?_pos (by decide)) place _ _
  · split
    · rintro next ⟨⟩
    · rintro next ⟨⟩

theorem scanVerbatim_shortens (s : Scanner) : s.Shortens s.scanVerbatim := by
  unfold scanVerbatim
  split
  · next count place => exact sectionEnd_shortens wordTag?_pos place _ _
  · split
    · rintro next ⟨⟩
    · rintro next ⟨⟩

theorem scanTag_shortens (s : Scanner) (statement : Bool) : s.Shortens (s.scanTag statement) := by
  rw [scanTag_eq]
  split
  · next size rest ending =>
      obtain ⟨mark, plus, isMark, found⟩ := endingSize?_eq_some ending
      obtain ⟨pos, rest⟩ := tagEnd?_pos isMark found
      refine Takes.shortens ?_ pos rest
      rintro next ⟨⟩
      rfl
  · rintro next ⟨⟩
  · next c tail ending rest =>
      obtain ⟨n, pos, takes⟩ := scanInside_takes s c
      exact takes.shortens pos (by rw [rest]; exact List.cons_ne_nil _ _)

theorem step_shortens (s : Scanner) : s.Shortens s.step := by
  unfold step
  split
  · exact scanData_shortens s
  · exact scanComment_shortens s
  · exact scanVerbatim_shortens s
  · exact scanTag_shortens s _

/-! ## Whole templates -/

/-- No reference that gets a dot stands inside of a tag. -/
def tagsKept : Nat → Scanner → Bool
  | 0, _ => true
  | fuel + 1, s => s.keepsTag && s.step.2.all (tagsKept fuel)

theorem run_succ (s : Scanner) (fuel : Nat) :
    s.run (fuel + 1) = s.step.1 ++ s.step.2.elim [] (·.run fuel) := by
  rw [run]
  cases s.step with
  | mk tokens next => cases next <;> simp

theorem Rewritten.run (side : Rewritten s s') {fuel fuel' : Nat} (enough : s.rest.length < fuel)
    (enough' : s'.rest.length < fuel') (keeps : s.tagsKept fuel = true) :
    (s'.run fuel').map Token.outline = (s.run fuel).map Token.outline := by
  induction fuel generalizing s s' fuel' with
  | zero => omega
  | succ fuel ih =>
      cases fuel' with
      | zero => omega
      | succ fuel' =>
          rw [tagsKept, Bool.and_eq_true] at keeps
          obtain ⟨tokens, next⟩ := side.step keeps.1
          rw [run_succ, run_succ, List.map_append, List.map_append, tokens]
          congr 1
          have less : ∀ next ∈ s.step.2, next.rest.length < s.rest.length := s.step_shortens
          have less' : ∀ next ∈ s'.step.2, next.rest.length < s'.rest.length := s'.step_shortens
          have kept := keeps.2
          generalize s.step.2 = found at next less kept ⊢
          generalize s'.step.2 = found' at next less' ⊢
          cases next with
          | none => rfl
          | @some next next' onward =>
              have shorter := less next rfl
              have shorter' := less' next' rfl
              exact ih onward (by omega) (by omega) kept

theorem rewritten_start (source : List Char) :
    Rewritten (start source) (start (rewriteFrom none source)) :=
  ⟨rfl, rfl, rfl, rfl, rfl⟩

end Scanner

/-- No reference that gets a dot stands inside of a tag of the template. -/
def keepsTags (source : String) : Bool :=
  let chars := Text.unifyNewlineChars source.toList
  (Scanner.start chars).tagsKept (2 * chars.length + 2)

/-! ## Line ends -/

theorem noReturn_unifyNewlineChars (s : List Char) : '\r' ∉ Text.unifyNewlineChars s := by
  fun_induction Text.unifyNewlineChars s with
  | case1 => simp
  | case2 rest ih => simpa using ih
  | case3 rest _ ih => simpa using ih
  | case4 c rest _ other ih =>
      rw [List.mem_cons, not_or]
      exact ⟨fun same => other same.symm, ih⟩

theorem unifyNewlineChars_of_noReturn {s : List Char} (noReturn : '\r' ∉ s) :
    Text.unifyNewlineChars s = s := by
  fun_induction Text.unifyNewlineChars s with
  | case1 => rfl
  | case2 rest ih => simp at noReturn
  | case3 rest _ ih => simp at noReturn
  | case4 c rest _ other ih => rw [ih (List.not_mem_of_not_mem_cons noReturn)]

theorem noReturn_rewriteFrom {s : List Char} (noReturn : '\r' ∉ s) (before : Option Char) :
    '\r' ∉ Markup.rewriteFrom before s := by
  have same := Markup.countP_rewritePart (p := (· == '\r')) (by decide) before s.length s
  rw [← Markup.rewriteFrom_eq_part, List.take_length] at same
  rw [← List.count_eq_zero] at noReturn ⊢
  exact same.trans noReturn

theorem finish_eq {tokens tokens' : List Token}
    (same : tokens'.map Token.outline = tokens.map Token.outline) :
    (tokens'.getLast?.map (·.line)).getD 1 = (tokens.getLast?.map (·.line)).getD 1 := by
  have last := congrArg (fun l => (l.getLast?.map (·.line)).getD 1) same
  simpa [List.getLast?_map, Function.comp_def, Token.outline] using last

/-- The tokens of a template with rewritten references are those of the template, apart from the
text outside of tags. -/
theorem outline_tokenize {source : String} (unified : '\r' ∉ source.toList)
    (keeps : keepsTags source = true) :
    (tokenize true (Markup.rewriteStaticUrls source)).map Token.outline =
      (tokenize true source).map Token.outline := by
  have chars := unifyNewlineChars_of_noReturn unified
  have chars' : Text.unifyNewlineChars (Markup.rewriteStaticUrls source).toList =
      Markup.rewriteFrom none source.toList := by
    rw [Markup.rewriteStaticUrls, String.toList_ofList]
    exact unifyNewlineChars_of_noReturn (noReturn_rewriteFrom unified none)
  rw [keepsTags, chars] at keeps
  have same : ((Scanner.start (Markup.rewriteFrom none source.toList)).run
        (2 * (Markup.rewriteFrom none source.toList).length + 2)).map Token.outline =
      ((Scanner.start source.toList).run (2 * source.toList.length + 2)).map Token.outline := by
    refine (Scanner.rewritten_start source.toList).run ?_ ?_ keeps
    · dsimp only [Scanner.start]
      omega
    · dsimp only [Scanner.start]
      omega
  unfold tokenize
  rw [chars, chars']
  simp only [if_true]
  rw [List.map_append, List.map_append, same, finish_eq same]

end DocumentServer.Template
