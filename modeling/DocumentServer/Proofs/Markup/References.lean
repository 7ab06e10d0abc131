import DocumentServer.Proofs.Markup.StaticUrl

/-!
Which references to static files get a dot: those that stand free, at the start of a text or behind a
character that neither a path nor a word goes on after. Places are counted in the text as it was, so that a
dot changes nothing for the references behind it, and a text in which no reference stands free is kept.
-/
namespace DocumentServer.Markup

variable {before : Option Char} {s word : List Char} {place : Nat} {places : List Nat}

/-- A reference begins at a place of a text. -/
def ReferenceAt (s : List Char) (place : Nat) : Prop := staticPath <+: s.drop place

/-- A place at the start of a text, or behind a character that is neither a dot nor of a word. -/
def StandsFree (s : List Char) : Nat → Prop
  | 0 => True
  | last + 1 => ∃ c, s[last]? = some c ∧ c ≠ '.' ∧ Text.isWord c = false

/-- A text with a dot before each of some places in it. The last dot is put first: the places in front of
it are then still the same. -/
def dotted (places : List Nat) (s : List Char) : List Char :=
  places.foldr (fun place text => text.insertIdx place '.') s

/-- A text that has lost the characters at some places, each counted after the losses before it. -/
def undotted (places : List Nat) (s : List Char) : List Char := places.foldl List.eraseIdx s

/-- The places of a text that the rewriting puts dots before. -/
def dotPlaces (before : Option Char) : List Char → List Nat
  | [] => []
  | c :: rest =>
    let later := (dotPlaces (some c) rest).map Nat.succ
    if getsDot before (c :: rest) then 0 :: later else later

/-! ## Dots and places -/

theorem dotted_cons (places : List Nat) (c : Char) (s : List Char) :
    dotted (places.map Nat.succ) (c :: s) = c :: dotted places s := by
  induction places with
  | nil => rfl
  | cons place later ih =>
      change (dotted (later.map Nat.succ) (c :: s)).insertIdx (place + 1) '.' = _
      rw [ih, List.insertIdx_succ_cons]
      rfl

theorem undotted_dotted (places : List Nat) (s : List Char) : undotted places (dotted places s) = s := by
  induction places with
  | nil => rfl
  | cons place later ih =>
      change undotted later (((dotted later s).insertIdx place '.').eraseIdx place) = s
      rw [List.eraseIdx_insertIdx_self, ih]

theorem rewriteFrom_eq_dotted (before : Option Char) (s : List Char) :
    rewriteFrom before s = dotted (dotPlaces before s) s := by
  induction s generalizing before with
  | nil => rfl
  | cons c rest ih =>
      rw [rewriteFrom_cons, dotPlaces, ih]
      split
      · change _ = (dotted ((dotPlaces (some c) rest).map Nat.succ) (c :: rest)).insertIdx 0 '.'
        rw [dotted_cons, List.insertIdx_zero]
      · rw [dotted_cons]

theorem dotPlaces_increase (before : Option Char) (s : List Char) :
    (dotPlaces before s).Pairwise (· < ·) := by
  induction s generalizing before with
  | nil => exact .nil
  | cons c rest ih =>
      have later : ((dotPlaces (some c) rest).map Nat.succ).Pairwise (· < ·) :=
        List.pairwise_map.2 ((ih (some c)).imp Nat.succ_lt_succ)
      rw [dotPlaces]
      split
      · refine .cons ?_ later
        simp
      · exact later

theorem mem_dotPlaces : place ∈ dotPlaces before s ↔
    getsDot (lastBefore before place s) (s.drop place) = true := by
  induction s generalizing before place with
  | nil => simp [dotPlaces, getsDot, staticPath]
  | cons c rest ih =>
      cases place with
      | zero =>
          have here : lastBefore before 0 (c :: rest) = before := rfl
          rw [dotPlaces, here, List.drop_zero]
          split <;> simp_all
      | succ place =>
          rw [lastBefore_cons, List.drop_succ_cons, ← ih, dotPlaces]
          split <;> simp

/-! ## References that stand free -/

theorem ReferenceAt.lt_length (reference : ReferenceAt s place) : place < s.length := by
  have fits := reference.length_le
  have long : staticPath.length = 7 := rfl
  rw [List.length_drop] at fits
  omega

theorem standsFree_iff (inside : place < s.length) :
    StandsFree s place ↔ (lastBefore none place s).any continuesPath = false := by
  cases place with
  | zero => simp [StandsFree, lastBefore]
  | succ last =>
      have there : s[last]? = some s[last] := List.getElem?_eq_getElem (by omega)
      simp [StandsFree, lastBefore, List.getLast?_take, there, continuesPath]

/-- The references that get a dot are those that stand free. -/
theorem mem_dotPlaces_iff :
    place ∈ dotPlaces none s ↔ ReferenceAt s place ∧ StandsFree s place := by
  rw [mem_dotPlaces, getsDot, Bool.and_eq_true, List.isPrefixOf_iff_prefix, Bool.not_eq_true']
  exact and_congr_right fun reference => (standsFree_iff (ReferenceAt.lt_length reference)).symm

/-! ## Texts that have been rewritten -/

/-- No dot is put inside of a word, and none makes a new one. -/
theorem isPrefixOf_rewriteFrom (plain : ∀ c ∈ word, c ≠ '.' ∧ c ≠ '/') (before : Option Char)
    (s : List Char) : word.isPrefixOf (rewriteFrom before s) = word.isPrefixOf s := by
  induction word generalizing before s with
  | nil => rfl
  | cons letter later ih =>
      obtain ⟨noDot, noSlash⟩ := plain letter List.mem_cons_self
      cases s with
      | nil => rfl
      | cons c rest =>
          rw [rewriteFrom_cons]
          split
          · next dot =>
              rw [slash_of_getsDot dot, List.isPrefixOf_cons_cons, List.isPrefixOf_cons_cons,
                beq_false_of_ne noDot, beq_false_of_ne noSlash, Bool.false_and, Bool.false_and]
          · rw [List.isPrefixOf_cons_cons, List.isPrefixOf_cons_cons,
              ih fun c mem => plain c (List.mem_cons_of_mem _ mem)]

theorem getsDot_rewritten (before : Option Char) (c : Char) (rest : List Char) (last : Option Char) :
    getsDot before (c :: rewriteFrom last rest) = getsDot before (c :: rest) := by
  have word : ∀ c ∈ ['s', 't', 'a', 't', 'i', 'c'], c ≠ '.' ∧ c ≠ '/' := by simp
  simp only [getsDot, staticPath, List.isPrefixOf_cons_cons, isPrefixOf_rewriteFrom word]

/-- No reference stands free once its text has been rewritten: it stood behind a character that holds it,
and still does, or it stands behind a dot. -/
theorem dotPlaces_rewriteFrom (before : Option Char) (s : List Char) :
    dotPlaces before (rewriteFrom before s) = [] := by
  induction s generalizing before with
  | nil => rfl
  | cons c rest ih =>
      rw [rewriteFrom_cons]
      split
      · have dot : getsDot before ('.' :: c :: rewriteFrom (some c) rest) = false := rfl
        have held : getsDot (some '.') (c :: rewriteFrom (some c) rest) = false := by
          simp [getsDot, continuesPath]
        simp [dotPlaces, dot, held, ih]
      · next plain => simp [dotPlaces, getsDot_rewritten, plain, ih]

theorem rewriteFrom_idem (before : Option Char) (s : List Char) :
    rewriteFrom before (rewriteFrom before s) = rewriteFrom before s := by
  rw [rewriteFrom_eq_dotted before (rewriteFrom before s), dotPlaces_rewriteFrom]
  rfl

/-- Rewriting puts dots before references, and takes nothing away. Those that stand free get one and no others
do, so that none stands free afterwards and rewriting again changes nothing. -/
theorem free_references_get_dots (source : String) :
    rewriteStaticUrls (rewriteStaticUrls source) = rewriteStaticUrls source ∧
    (∃ places : List Nat, places.Pairwise (· < ·) ∧
      (rewriteStaticUrls source).toList = dotted places source.toList ∧
      undotted places (rewriteStaticUrls source).toList = source.toList ∧
      (∀ place ∈ places, ReferenceAt source.toList place) ∧
      ∀ place, ReferenceAt source.toList place →
        (place ∈ places ↔ StandsFree source.toList place)) ∧
    ∀ place, ReferenceAt (rewriteStaticUrls source).toList place →
      ¬StandsFree (rewriteStaticUrls source).toList place := by
  have rewritten : (rewriteStaticUrls source).toList = rewriteFrom none source.toList :=
    String.toList_ofList
  refine ⟨?_, ⟨dotPlaces none source.toList, dotPlaces_increase none _, ?_, ?_, ?_, ?_⟩, ?_⟩
  · rw [rewriteStaticUrls, rewritten, rewriteFrom_idem, rewriteStaticUrls]
  · rw [rewritten, rewriteFrom_eq_dotted]
  · rw [rewritten, rewriteFrom_eq_dotted, undotted_dotted]
  · exact fun place mem => (mem_dotPlaces_iff.1 mem).1
  · intro place reference
    rw [mem_dotPlaces_iff, and_iff_right reference]
  · intro place reference free
    rw [rewritten] at reference free
    have mem := mem_dotPlaces_iff.2 ⟨reference, free⟩
    rw [dotPlaces_rewriteFrom] at mem
    cases mem

/-- Of references in a row only the first one stands free. -/
example : rewriteStaticUrls "url(/static/static), ./static" = "url(./static/static), ./static" := by
  decide

end DocumentServer.Markup
