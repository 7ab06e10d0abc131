import DocumentServer.Proofs.Page.Config
import DocumentServer.Proofs.Text.Runs

/-!
The texts of custom sizes. A size is accepted exactly if it is written by the grammar: a width, white
space and a height, and white space at the ends; each length is a numeral and a unit. The digits may be
those of any script, so that a length goes to the browser as it was written and is not always one that a
browser can read.
-/
namespace DocumentServer.Page
open Text

/-! ## The grammar -/

/-- A non-empty run of digits. -/
def Digits (isDigit : Char → Bool) (s : List Char) : Prop := s ≠ [] ∧ ∀ c ∈ s, isDigit c = true

/-- Digits, and possibly a point with digits behind it. -/
inductive IsNumeral (isDigit : Char → Bool) : List Char → Prop
  | whole {ds} : Digits isDigit ds → IsNumeral isDigit ds
  | pointed {ds fraction} : Digits isDigit ds → Digits isDigit fraction →
      IsNumeral isDigit (ds ++ '.' :: fraction)

/-- A numeral with a unit behind it. -/
inductive IsLength (isDigit : Char → Bool) : List Char → Prop
  | measured {number unit} : IsNumeral isDigit number → unit ∈ units → IsLength isDigit (number ++ unit)

/-- A text that is a width and a height with a gap between them, once the white space around is gone. -/
structure Written (s : String) (d : Dimensions) (gap : List Char) : Prop where
  stripped : Stripped s.toList (d.width.toList ++ gap ++ d.height.toList)
  gap_ne_nil : gap ≠ []
  blank : Blanks gap
  width : IsLength isDecimalDigit d.width.toList
  height : IsLength isDecimalDigit d.height.toList

/-! ## Numerals and lengths -/

variable {s number rest ds l : List Char}

theorem numeral?_complete (numeral : IsNumeral isDecimalDigit number)
    (ends : ∀ c, rest.head? = some c → isDecimalDigit c = false ∧ c ≠ '.') :
    numeral? (number ++ rest) = some (number, rest) := by
  have stops := fun c first => (ends c first).1
  have point : ∀ tail : List Char, ∀ c, ('.' :: tail).head? = some c → isDecimalDigit c = false := by
    rintro tail c ⟨⟩
    decide
  cases numeral with
  | whole digits =>
      have some : number.isEmpty = false := List.isEmpty_eq_false_iff.2 digits.1
      rw [numeral?, takeWhile_run digits.2 stops, dropWhile_run digits.2 stops]
      simp only [some, Bool.false_eq_true, if_false]
      split
      · next tail =>
          exact absurd rfl (ends '.' rfl).2
      · rfl
  | @pointed ds fraction digits behind =>
      -- the first run ends at the point, the second where the numeral does
      have some : ds.isEmpty = false := List.isEmpty_eq_false_iff.2 digits.1
      have more : fraction.isEmpty = false := List.isEmpty_eq_false_iff.2 behind.1
      rw [List.append_assoc, List.cons_append, numeral?, takeWhile_run digits.2 (point _),
        dropWhile_run digits.2 (point _)]
      simp only [some, more, takeWhile_run behind.2 stops, dropWhile_run behind.2 stops, Bool.false_eq_true,
        if_false]

theorem digits_takeWhile (some : ¬(s.takeWhile isDecimalDigit).isEmpty = true) :
    Digits isDecimalDigit (s.takeWhile isDecimalDigit) :=
  ⟨fun none => some (List.isEmpty_iff.2 none), fun _ => List.mem_takeWhile_imp⟩

theorem numeral?_sound (read : numeral? s = some (number, rest)) :
    IsNumeral isDecimalDigit number ∧ s = number ++ rest := by
  have parts := List.takeWhile_append_dropWhile (p := isDecimalDigit) (l := s)
  simp only [numeral?] at read
  split at read
  · cases read
  · next some =>
      split at read
      · next tail behind =>
          split at read
          · cases read
          · next more =>
              cases read
              refine ⟨.pointed (digits_takeWhile some) (digits_takeWhile more), ?_⟩
              rw [List.append_assoc, List.cons_append, List.takeWhile_append_dropWhile, ← behind, parts]
      · cases read
        exact ⟨.whole (digits_takeWhile some), parts.symm⟩

theorem length_unit : ∀ unit ∈ units, unit.length = 2 := by decide

theorem letter_of_mem_unit {unit : List Char} {c : Char} (known : unit ∈ units) (mem : c ∈ unit) :
    isDecimalDigit c = false ∧ c ≠ '.' := by
  have all : ∀ unit ∈ units, unit.all (fun c => !isDecimalDigit c && c != '.') = true := by decide
  simpa using List.all_eq_true.1 (all unit known) c mem

theorem length?_complete (length : IsLength isDecimalDigit l) (rest : List Char) :
    length? (l ++ rest) = some (l, rest) := by
  obtain @⟨number, unit, numeral, known⟩ := length
  have two := length_unit unit known
  have taken : (unit ++ rest).take 2 = unit := by rw [← two, List.take_left]
  have dropped : (unit ++ rest).drop 2 = rest := by rw [← two, List.drop_left]
  have read : numeral? (number ++ (unit ++ rest)) = some (number, unit ++ rest) := by
    refine numeral?_complete numeral fun c first => letter_of_mem_unit known ?_
    rw [List.head?_append_of_ne_nil _ (List.ne_nil_of_length_pos (by omega))] at first
    exact List.mem_of_mem_head? first
  rw [List.append_assoc, length?, read]
  simp only [taken, dropped, List.contains_iff_mem.2 known, if_true]

theorem length?_sound (read : length? s = some (l, rest)) : IsLength isDecimalDigit l ∧ s = l ++ rest := by
  unfold length? at read
  split at read
  · next number behind told =>
      obtain ⟨numeral, rfl⟩ := numeral?_sound told
      split at read
      · next known =>
          cases read
          refine ⟨.measured numeral (List.contains_iff_mem.1 known), ?_⟩
          rw [List.append_assoc, List.take_append_drop]
      · cases read
  · cases read

/-! ## Dimensions -/

variable {text : String} {d d' : Dimensions} {gap gap' : List Char}

theorem IsLength.front {isDigit : Char → Bool} (length : IsLength isDigit l) :
    ∃ c tail, l = c :: tail ∧ isDigit c = true := by
  obtain @⟨number, unit, numeral, -⟩ := length
  have first : ∀ ds, Digits isDigit ds → ∀ rest, ∃ c tail, ds ++ rest = c :: tail ∧ isDigit c = true := by
    rintro ds ⟨some, digits⟩ rest
    obtain ⟨c, tail, rfl⟩ := List.exists_cons_of_ne_nil some
    exact ⟨c, tail ++ rest, rfl, digits c List.mem_cons_self⟩
  cases numeral with
  | whole digits => exact first _ digits unit
  | pointed digits behind =>
      rw [List.append_assoc]
      exact first _ digits _

theorem Written.dimensions?_eq (written : Written text d gap) : dimensions? text = some d := by
  obtain ⟨stripped, some, blank, width, height⟩ := written
  have front : ∀ c, d.height.toList.head? = Option.some c → isBlank c = false := by
    obtain ⟨c, tail, told, digit⟩ := height.front
    rw [told]
    rintro _ ⟨⟩
    exact isBlank_of_isDecimalDigit digit
  have last := length?_complete height []
  rw [List.append_nil] at last
  rw [dimensions?, stripped.trimBlank_eq, List.append_assoc, length?_complete width]
  simp [dropWhile_run blank front, some, last]

theorem written_of_dimensions? (read : dimensions? text = some d) : ∃ gap, Written text d gap := by
  simp only [dimensions?, Option.bind_eq_bind, Option.bind_eq_some_iff] at read
  obtain ⟨⟨width, rest⟩, first, read⟩ := read
  dsimp only at read
  split at read
  · cases read
  next apart =>
  obtain ⟨⟨height, behind⟩, second, read⟩ := Option.bind_eq_some_iff.1 read
  dsimp only at read
  split at read
  · next done =>
      cases read
      obtain ⟨widthLength, start⟩ := length?_sound first
      obtain ⟨heightLength, finish⟩ := length?_sound second
      rw [List.isEmpty_iff.1 done, List.append_nil] at finish
      have parts := List.takeWhile_append_dropWhile (p := isBlank) (l := rest)
      rw [finish] at parts apart
      refine ⟨rest.takeWhile isBlank, ?_, ?_, fun c => List.mem_takeWhile_imp, ?_, ?_⟩
      · rw [String.toList_ofList, String.toList_ofList, List.append_assoc, parts, ← start]
        exact stripped_trimBlank _
      · intro none
        rw [none, List.nil_append] at parts
        exact apart (by rw [parts, beq_self_eq_true])
      · rwa [String.toList_ofList]
      · rwa [String.toList_ofList]
  · cases read

theorem dimensions?_eq_some : dimensions? text = some d ↔ ∃ gap, Written text d gap := by
  constructor
  · exact written_of_dimensions?
  · rintro ⟨gap, written⟩
    exact written.dimensions?_eq

/-- A text is written in one way only. -/
theorem Written.unique (written : Written text d gap) (other : Written text d' gap') : d = d' ∧ gap = gap' := by
  have same := written.dimensions?_eq
  rw [other.dimensions?_eq] at same
  cases same
  have core := written.stripped.trimBlank_eq
  rw [other.stripped.trimBlank_eq] at core
  exact ⟨rfl, (List.append_cancel_left (List.append_cancel_right core)).symm⟩

/-! ## Sizes -/

theorem parseCustom_eq_ok : parseCustom text = .ok d ↔ dimensions? text = some d := by
  unfold parseCustom
  cases dimensions? text <;> simp

theorem parseCustom_eq_error {fault : Fault} :
    parseCustom text = .error fault ↔ dimensions? text = none ∧ invalidSize text = fault := by
  unfold parseCustom
  cases dimensions? text <;> simp

theorem isStandard_iff : isStandard text = true ↔ text ∈ standardSizes := List.contains_iff_mem

theorem validateSize_text (text : String) : validateSize (.text text) = Size.read text := rfl

/-- A text is a size if it is a standard name or dimensions. -/
theorem exists_read_iff : (∃ size, Size.read text = .ok size) ↔
    isStandard text = true ∨ ∃ d, dimensions? text = some d := by
  constructor
  · rintro ⟨size, accepted⟩
    rw [← Size.text_of_read accepted]
    cases size with
    | standard name known => exact .inl known
    | custom given d parsed => exact .inr ⟨d, parsed⟩
  · rintro (standard | ⟨d, parsed⟩)
    · exact ⟨_, Size.read_standard standard⟩
    · exact ⟨_, Size.read_custom parsed⟩

/-- A text is accepted as a custom size exactly if it is written as one, with the lengths that are written,
and there is one way at most to read it so. All other texts are refused by a message that quotes them as they
were given. Sizes are the standard names and the custom sizes, which have none in common, and a size is kept
as it was given. -/
theorem custom_sizes_are_written (text : String) :
    (∀ d, parseCustom text = .ok d ↔ ∃ gap, Written text d gap) ∧
    (∀ d gap d' gap', Written text d gap → Written text d' gap' → d = d' ∧ gap = gap') ∧
    ((¬∃ d gap, Written text d gap) → ∃ fault, parseCustom text = .error fault ∧
      fault.cause = .invalidInput ∧
      fault.message = "Invalid page size '" ++ text ++ "'. Expected one of Letter, Legal, Tabloid, " ++
        "Ledger, A0, A1, A2, A3, A4, A5, A6 or '<number><unit> <number><unit>' " ++
        "with units in, cm, mm or px") ∧
    ((∃ size, validateSize (.text text) = .ok size) ↔
      text ∈ standardSizes ∨ ∃ d, parseCustom text = .ok d) ∧
    (∀ size, validateSize (.text text) = .ok size → size.text = text) ∧
    (text ∈ standardSizes → ∀ d, parseCustom text ≠ .ok d) := by
  simp only [parseCustom_eq_ok, validateSize_text, exists_read_iff, isStandard_iff, dimensions?_eq_some,
    parseCustom_eq_error, ne_eq, true_and, iff_self, implies_true]
  refine ⟨fun d gap d' gap' => Written.unique, fun other => ?_, fun size => Size.text_of_read, ?_⟩
  · refine ⟨invalidSize text, ⟨?_, rfl⟩, rfl, ?_⟩
    · rw [Option.eq_none_iff_forall_ne_some]
      exact fun d read => other ⟨d, dimensions?_eq_some.1 read⟩
    · have names : String.intercalate ", " standardSizes =
          "Letter, Legal, Tabloid, Ledger, A0, A1, A2, A3, A4, A5, A6" := rfl
      have message : (invalidSize text).message = "Invalid page size '" ++ text ++ "'. Expected one of " ++
          String.intercalate ", " standardSizes ++ " " ++
          "or '<number><unit> <number><unit>' with units in, cm, mm or px" := rfl
      rw [message, names]
      simp [String.append_assoc]
  · rintro standard d ⟨gap, written⟩
    have none := dimensions?_of_isStandard (isStandard_iff.2 standard)
    rw [written.dimensions?_eq] at none
    cases none

/-! ## What a browser is told -/

theorem IsNumeral.of_digits {p q : Char → Bool} (numeral : IsNumeral p s)
    (same : ∀ c ∈ s, p c = true → q c = true) : IsNumeral q s := by
  cases numeral with
  | whole digits => exact .whole ⟨digits.1, fun c mem => same c mem (digits.2 c mem)⟩
  | pointed digits behind =>
      refine .pointed ⟨digits.1, fun c mem => same c ?_ (digits.2 c mem)⟩
        ⟨behind.1, fun c mem => same c ?_ (behind.2 c mem)⟩
      · exact List.mem_append_left _ mem
      · exact List.mem_append_right _ (List.mem_cons_of_mem _ mem)

theorem IsNumeral.mem {p : Char → Bool} {c : Char} (numeral : IsNumeral p s) (mem : c ∈ s) :
    p c = true ∨ c = '.' := by
  cases numeral with
  | whole digits => exact .inl (digits.2 c mem)
  | pointed digits behind =>
      rcases List.mem_append.1 mem with front | back
      · exact .inl (digits.2 c front)
      · rcases List.mem_cons.1 back with rfl | fraction
        · exact .inr rfl
        · exact .inl (behind.2 c fraction)

/-- A length has ASCII digits alone if it has no other digits. -/
theorem isLength_ascii_iff (length : IsLength isDecimalDigit l) :
    IsLength Char.isDigit l ↔ ∀ c ∈ l, isDecimalDigit c = true → c.isDigit = true := by
  constructor
  · intro plain c mem digit
    obtain @⟨number, unit, numeral, known⟩ := plain
    rcases List.mem_append.1 mem with front | back
    · rcases numeral.mem front with ascii | rfl
      · exact ascii
      · exact absurd digit (by decide)
    · rw [(letter_of_mem_unit known back).1] at digit
      cases digit
  · intro plain
    obtain @⟨number, unit, numeral, known⟩ := length
    exact .measured (numeral.of_digits fun c mem => plain c (List.mem_append_left _ mem)) known

theorem Written.digits_ascii_iff (written : Written text d gap) :
    IsLength Char.isDigit d.width.toList ∧ IsLength Char.isDigit d.height.toList ↔
      ∀ c ∈ text.toList, isDecimalDigit c = true → c.isDigit = true := by
  have blank : ∀ s, Blanks s → ∀ c ∈ s, isDecimalDigit c = true → c.isDigit = true := by
    intro s blanks c mem digit
    have space := blanks c mem
    rw [isBlank_of_isDecimalDigit digit] at space
    cases space
  obtain ⟨before, after, front, back, told⟩ := written.stripped.around
  have gap := blank gap written.blank
  have front := blank before front
  have back := blank after back
  rw [isLength_ascii_iff written.width, isLength_ascii_iff written.height, told]
  simp only [List.forall_mem_append]
  exact ⟨fun ⟨width, height⟩ => ⟨⟨front, ⟨width, gap⟩, height⟩, back⟩,
    fun ⟨⟨_, ⟨width, _⟩, height⟩, _⟩ => ⟨width, height⟩⟩

/-- The lengths of an accepted custom size go to the browser as they were written: a numeral in digits of any
script, and a unit. The digits are those that a browser reads exactly if the text has no others. -/
theorem lengths_readable_iff {size : Size} (accepted : validateSize (.text text) = .ok size)
    (other : text ∉ standardSizes) (orientation : Orientation) :
    ∃ width height,
      ({ size, orientation } : Config).printOptions.toJson = .object [("print_background", .bool true),
        ("width", .text width), ("height", .text height),
        ("landscape", .bool (orientation == .landscape))] ∧
      IsLength isDecimalDigit width.toList ∧ IsLength isDecimalDigit height.toList ∧
      (IsLength Char.isDigit width.toList ∧ IsLength Char.isDigit height.toList ↔
        ∀ c ∈ text.toList, isDecimalDigit c = true → c.isDigit = true) := by
  have kept := Size.text_of_read accepted
  have options := toJson_printOptions { size, orientation }
  rw [Orientation.name_eq_landscape] at options
  rcases options with ⟨standard, -⟩ | ⟨-, d, parsed, options⟩
  · rw [kept, isStandard_iff] at standard
    exact absurd standard other
  · rw [kept, parseCustom_eq_ok, dimensions?_eq_some] at parsed
    obtain ⟨gap, written⟩ := parsed
    exact ⟨d.width, d.height, options, written.width, written.height, written.digits_ascii_iff⟩

theorem letterPaper_readable :
    ∃ size, validateSize (.text " 8.5in 11in") = .ok size ∧ " 8.5in 11in" ∉ standardSizes ∧
      ∃ width height,
        ({ size, orientation := .landscape } : Config).printOptions.toJson =
          .object [("print_background", .bool true), ("width", .text width), ("height", .text height),
            ("landscape", .bool true)] ∧
        IsLength Char.isDigit width.toList ∧ IsLength Char.isDigit height.toList := by
  have parsed : dimensions? " 8.5in 11in" = some ⟨"8.5in", "11in"⟩ := by decide
  have other : " 8.5in 11in" ∉ standardSizes := by decide
  refine ⟨_, Size.read_custom parsed, other, ?_⟩
  have plain : (" 8.5in 11in".toList.all fun c => !isDecimalDigit c || c.isDigit) = true := by decide
  obtain ⟨width, height, options, -, -, readable⟩ :=
    lengths_readable_iff (Size.read_custom parsed) other .landscape
  refine ⟨width, height, options, readable.2 fun c mem digit => ?_⟩
  simpa [digit] using List.all_eq_true.1 plain c mem

/-- The same paper with eight and a half in Devanagari digits, which no browser reads. -/
theorem devanagariPaper_unreadable :
    ∃ size, validateSize (.text "८.५in 11in") = .ok size ∧ "८.५in 11in" ∉ standardSizes ∧
      (∀ orientation, ({ size, orientation } : Config).printOptions.toJson =
        .object [("print_background", .bool true), ("width", .text "८.५in"), ("height", .text "11in"),
          ("landscape", .bool (orientation == .landscape))]) ∧
      ¬IsLength Char.isDigit "८.५in".toList := by
  have parsed : dimensions? "८.५in 11in" = some ⟨"८.५in", "11in"⟩ := by decide
  refine ⟨_, Size.read_custom parsed, by decide, fun orientation => rfl, ?_⟩
  intro readable
  obtain ⟨c, tail, told, digit⟩ := readable.front
  cases told
  exact absurd digit (by decide)

end DocumentServer.Page
