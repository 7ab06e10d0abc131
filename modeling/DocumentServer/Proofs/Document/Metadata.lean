import DocumentServer.Proofs.Document.Compiling
import Mathlib

/-!
Which metadata a template may give itself. Only plain assignments at its outer level count, of these all
have to be constant, and the last one for each name is the one that is kept.
-/
namespace DocumentServer.Document
open Files Template

variable {e : Environment} {ss : List Stmt} {values : List (String × Value)} {name : String}
  {x : Expr} {v : Value} {f : Fault} {tree : Tree} {root file path folder : Path} {rewrites : Bool}
  {source : Source} {template : Compiled}

/-! ## Settings -/

/-- What a statement assigns to a name. -/
def setting? (name : String) : Stmt → Option Expr
  | .assign _ (.name target) value => if target == name then some value else none
  | _ => none

/-- What is assigned to a name at the outer level, in order. -/
def settings (name : String) (ss : List Stmt) : List Expr := ss.filterMap (setting? name)

/-- An expression has a value that is known before the template runs. -/
def HasValue (e : Environment) (x : Expr) (v : Value) : Prop := constant e e.escapes x = .ok v

theorem HasValue.unique {w : Value} (first : HasValue e x v) (second : HasValue e x w) : v = w :=
  Except.ok.inj (first.symm.trans second)

/-- A value that an id can be set to: text that is not empty. The value `none` is taken for no id. -/
def IsId (v : Value) : Prop := v = .none ∨ ∃ s, v.text? = some s ∧ s ≠ ""

/-- A value that properties can be set to: a mapping. The value `none` is taken for no properties. -/
def IsProps (v : Value) : Prop := v = .none ∨ ∃ entries, v = .dict entries

/-- Metadata that is accepted. -/
structure Accepted (e : Environment) (ss : List Stmt) : Prop where
  constant : ∀ name ∈ [idName, propsName], ∀ x ∈ settings name ss, ∃ v, HasValue e x v
  id : ∀ x v, (settings idName ss).getLast? = some x → HasValue e x v → IsId v
  props : ∀ x v, (settings propsName ss).getLast? = some x → HasValue e x v → IsProps v

theorem settings_cons (name : String) (s : Stmt) (rest : List Stmt) :
    settings name (s :: rest) = (setting? name s).toList ++ settings name rest := by
  rw [settings, List.filterMap_cons]
  cases setting? name s <;> rfl

/-- What becomes of a statement at the outer level: it is passed over, or it assigns a value to one of the
names, or what it assigns has no value. -/
theorem assignments_cons (e : Environment) (s : Stmt) (rest : List Stmt) :
    ((∀ name ∈ [idName, propsName], setting? name s = none) ∧
        assignments e (s :: rest) = assignments e rest) ∨
      ∃ name ∈ [idName, propsName], ∃ x, setting? name s = some x ∧
        (∀ other, other ≠ name → setting? other s = none) ∧
        ((∃ v, HasValue e x v ∧
            assignments e (s :: rest) = (assignments e rest).map ((name, v) :: ·)) ∨
          (∀ v, ¬HasValue e x v) ∧ ∃ f, assignments e (s :: rest) = .error f) := by
  cases s with
  | assign line target x =>
      cases target with
      | name target =>
          by_cases known : (target == idName || target == propsName) = true
          · refine .inr ⟨target, by simpa using known, x, by simp [setting?], ?_, ?_⟩
            · intro other differs
              simp [setting?, Ne.symm differs]
            · rw [assignments, if_pos known]
              cases seen : constant e e.escapes x with
              | ok v => exact .inl ⟨v, seen, rfl⟩
              | error failed =>
                  refine .inr ⟨fun v value => ?_, ?_⟩
                  · cases seen.symm.trans value
                  · cases failed <;> exact ⟨_, rfl⟩
          · refine .inl ⟨?_, by rw [assignments, if_neg known]⟩
            intro name member
            have differs : target ≠ name := by
              rintro rfl
              exact known (by simpa using member)
            simp [setting?, differs]
      | _ => exact .inl ⟨fun _ _ => rfl, rfl⟩
  | _ => exact .inl ⟨fun _ _ => rfl, rfl⟩

theorem exists_assignments (e : Environment) (ss : List Stmt) :
    (∃ values, assignments e ss = .ok values) ↔
      ∀ name ∈ [idName, propsName], ∀ x ∈ settings name ss, ∃ v, HasValue e x v := by
  induction ss with
  | nil => simp [assignments, settings]
  | cons s rest ih =>
      simp only [settings_cons, List.mem_append, Option.mem_toList]
      rcases assignments_cons e s rest with ⟨passed, same⟩ | ⟨name, known, x, sets, alone, outcome⟩
      · rw [same, ih]
        constructor
        · rintro all name member x (here | later)
          · rw [passed name member] at here
            cases here
          · exact all name member x later
        · exact fun all name member x later => all name member x (.inr later)
      rcases outcome with ⟨v, value, same⟩ | ⟨valueless, f, failed⟩
      · rw [same, exists_map_eq_ok, ih]
        constructor
        · rintro all other member y (here | later)
          · by_cases hit : other = name
            · subst hit
              rw [sets] at here
              cases here
              exact ⟨v, value⟩
            · rw [alone other hit] at here
              cases here
          · exact all other member y later
        · exact fun all other member y later => all other member y (.inr later)
      · rw [failed]
        refine iff_of_false (by simp) ?_
        intro all
        obtain ⟨v, value⟩ := all name known x (.inl sets)
        exact valueless v value

theorem last?_cons (name n : String) (v : Value) (rest : List (String × Value)) :
    last? name ((n, v) :: rest) = (last? name rest).or (if n == name then some v else none) := by
  rw [last?, List.reverse_cons, List.lookup_append, last?]
  congr 1
  by_cases hit : n = name
  · simp [List.lookup, hit]
  · simp [List.lookup, hit, beq_false_of_ne (Ne.symm hit)]

/-- The last value of a name is that of its last setting. -/
theorem last?_assignments (name : String) (known : name ∈ [idName, propsName])
    (read : assignments e ss = .ok values) :
    last? name values = none ∧ settings name ss = [] ∨
      ∃ x v, (settings name ss).getLast? = some x ∧ HasValue e x v ∧ last? name values = some v := by
  induction ss generalizing values with
  | nil =>
      cases read
      exact .inl ⟨rfl, rfl⟩
  | cons s rest ih =>
      rw [settings_cons]
      rcases assignments_cons e s rest with ⟨passed, same⟩ | ⟨n, _, x, sets, alone, outcome⟩
      · rw [same] at read
        rw [passed name known]
        exact ih read
      rcases outcome with ⟨v, value, same⟩ | ⟨_, f, failed⟩
      · rw [same] at read
        obtain ⟨later, readLater, rfl⟩ := map_eq_ok.1 read
        rw [last?_cons]
        by_cases hit : n = name
        · subst hit
          rw [sets]
          rcases ih readLater with ⟨none, empty⟩ | ⟨y, w, last, valueToo, found⟩
          · exact .inr ⟨x, v, by simp [empty], value, by simp [none]⟩
          · exact .inr ⟨y, w, by simp [List.getLast?_cons, last], valueToo, by simp [found]⟩
        · rw [alone name (Ne.symm hit)]
          simpa [hit] using ih readLater
      · rw [failed] at read
        cases read

/-- What holds of the value that is kept for a name, holds of the value of its last setting. -/
theorem kept_iff {P : Value → Prop} (read : assignments e ss = .ok values)
    (known : name ∈ [idName, propsName]) (unset : P .none) :
    P ((last? name values).getD .none) ↔
      ∀ x v, (settings name ss).getLast? = some x → HasValue e x v → P v := by
  rcases last?_assignments name known read with ⟨none, empty⟩ | ⟨x, v, last, value, found⟩
  · rw [none]
    exact iff_of_true unset (by simp [empty])
  · rw [found]
    constructor
    · intro holds y w lastToo valueToo
      obtain rfl := Option.some.inj (last.symm.trans lastToo)
      exact value.unique valueToo ▸ holds
    · exact fun all => all x v last value

/-! ## Metadata -/

theorem readId_eq_ok {id : Option String} : readId v = .ok id ↔ id = v.text? ∧ IsId v := by
  unfold readId IsId
  split
  · exact ⟨fun same => ⟨(Except.ok.inj same).symm, .inl rfl⟩, fun ⟨same, _⟩ => same ▸ rfl⟩
  · next other =>
      have isSome : v ≠ .none := other
      cases text : v.text? with
      | none => simp [isSome]
      | some s =>
          by_cases empty : s = ""
          · simp [isSome, empty]
          · simp only [isSome, false_or, Option.some.injEq, exists_eq_left', String.isEmpty_iff, empty,
              if_false, Except.ok.injEq, ne_eq, not_false_eq_true, and_true]
            exact eq_comm

theorem readProps_eq_ok {entries : List (Value × Value)} :
    readProps v = .ok entries ↔ v = .none ∧ entries = [] ∨ v = .dict entries := by
  cases v <;> simp [readProps, eq_comm]

theorem exists_readProps : (∃ entries, readProps v = .ok entries) ↔ IsProps v := by
  simp only [readProps_eq_ok, IsProps]
  constructor
  · rintro ⟨entries, ⟨none, _⟩ | same⟩
    · exact .inl none
    · exact .inr ⟨entries, same⟩
  · rintro (none | ⟨entries, same⟩)
    · exact ⟨[], .inl ⟨none, rfl⟩⟩
    · exact ⟨entries, .inr same⟩

theorem readMetadata_eq_ok {metadata : Metadata} :
    readMetadata e ss = .ok metadata ↔ ∃ values, assignments e ss = .ok values ∧
      readId ((last? idName values).getD .none) = .ok metadata.id ∧
      readProps ((last? propsName values).getD .none) = .ok metadata.previewProps := by
  simp only [readMetadata, bind_eq_ok]
  constructor
  · rintro ⟨values, read, id, isId, props, areProps, same⟩
    cases same
    exact ⟨values, read, isId, areProps⟩
  · rintro ⟨values, read, isId, areProps⟩
    exact ⟨values, read, _, isId, _, areProps, rfl⟩

/-- Metadata is read exactly if it is accepted. -/
theorem exists_readMetadata (e : Environment) (ss : List Stmt) :
    (∃ metadata, readMetadata e ss = .ok metadata) ↔ Accepted e ss := by
  simp only [readMetadata_eq_ok]
  constructor
  · rintro ⟨metadata, values, read, isId, areProps⟩
    exact ⟨(exists_assignments e ss).1 ⟨values, read⟩,
      (kept_iff read (by simp) (.inl rfl)).1 (readId_eq_ok.1 isId).2,
      (kept_iff read (by simp) (.inl rfl)).1 (exists_readProps.1 ⟨_, areProps⟩)⟩
  · intro accepted
    obtain ⟨values, read⟩ := (exists_assignments e ss).2 accepted.constant
    have isId := (kept_iff read (by simp) (.inl rfl)).2 accepted.id
    obtain ⟨props, areProps⟩ := exists_readProps.2
      ((kept_iff read (by simp) (.inl rfl)).2 accepted.props)
    exact ⟨⟨_, props⟩, values, read, readId_eq_ok.2 ⟨rfl, isId⟩, areProps⟩

theorem id_kept {metadata : Metadata} (told : readMetadata e ss = .ok metadata) :
    (settings idName ss = [] → metadata.id = none) ∧
      ∀ x v, (settings idName ss).getLast? = some x → HasValue e x v → metadata.id = v.text? := by
  obtain ⟨values, read, isId, _⟩ := readMetadata_eq_ok.1 told
  obtain ⟨same, _⟩ := readId_eq_ok.1 isId
  rw [same]
  rcases last?_assignments idName (by simp) read with
    ⟨none, empty⟩ | ⟨x, v, last, value, found⟩
  · rw [none]
    exact ⟨fun _ => rfl, by simp [empty]⟩
  · rw [found]
    refine ⟨fun empty => by simp [empty] at last, ?_⟩
    intro y w lastToo valueToo
    obtain rfl := Option.some.inj (last.symm.trans lastToo)
    rw [value.unique valueToo]
    rfl

theorem props_kept {metadata : Metadata} (told : readMetadata e ss = .ok metadata) :
    (settings propsName ss = [] → metadata.previewProps = []) ∧
      ∀ x v, (settings propsName ss).getLast? = some x → HasValue e x v →
        v = .none ∧ metadata.previewProps = [] ∨ v = .dict metadata.previewProps := by
  obtain ⟨values, read, _, areProps⟩ := readMetadata_eq_ok.1 told
  rcases last?_assignments propsName (by simp) read with
    ⟨none, empty⟩ | ⟨x, v, last, value, found⟩
  · rw [none] at areProps
    exact ⟨fun _ => (Except.ok.inj areProps).symm, by simp [empty]⟩
  · rw [found] at areProps
    refine ⟨fun empty => by simp [empty] at last, ?_⟩
    intro y w lastToo valueToo
    obtain rfl := Option.some.inj (last.symm.trans lastToo)
    rw [← value.unique valueToo]
    exact readProps_eq_ok.1 areProps

/-! ## Compiling -/

/-- A template that could be made ready is compiled exactly if its metadata can be read. -/
theorem compile_of_prepared (here : resolve tree file = .ok path) (top : resolve tree root = .ok folder)
    (sourced : readSource tree rewrites path = .ok source)
    (parsed : Template.read Environment.ofDocuments.keepsLastNewline source.text = .ok ss)
    (made : Compiled.ofStatements .ofDocuments (some (templateName folder path)) ss = .ok template) :
    compile tree root rewrites file =
      ((readMetadata .ofDocuments ss).mapError (executeFailure path)).map fun metadata =>
        { environment := .ofDocuments, template, path, root, css := source.css, id := metadata.id,
          previewProps := metadata.previewProps } := by
  simp only [compile, here, top, sourced, parsed, made, Except.mapError, ok_bind, pure, Except.pure]
  cases readMetadata .ofDocuments ss <;> rfl

/-- A template that can be parsed and made ready is compiled exactly if every setting of its metadata at
the outer level is constant, and the last ones are fit to be an id and properties. These are what the
document has, and nothing else in the template bears on it. All other templates fail when they are
executed. -/
theorem compiled_iff_accepted (tree : Tree) (root file : Path) (rewrites : Bool) {path folder : Path}
    {source : Source} {statements : List Stmt} {template : Compiled}
    (here : resolve tree file = .ok path) (top : resolve tree root = .ok folder)
    (sourced : readSource tree rewrites path = .ok source)
    (parsed : Template.read Environment.ofDocuments.keepsLastNewline source.text = .ok statements)
    (made : Compiled.ofStatements .ofDocuments (some (templateName folder path)) statements =
      .ok template) :
    ((∃ d, compile tree root rewrites file = .ok d) ↔ Accepted .ofDocuments statements) ∧
      (∀ d, compile tree root rewrites file = .ok d →
        ((settings idName statements = [] → d.id = none) ∧
          ∀ x v, (settings idName statements).getLast? = some x → HasValue .ofDocuments x v →
            d.id = v.text?) ∧
        (settings propsName statements = [] → d.previewProps = []) ∧
          ∀ x v, (settings propsName statements).getLast? = some x → HasValue .ofDocuments x v →
            v = .none ∧ d.previewProps = [] ∨ v = .dict d.previewProps) ∧
      (¬Accepted .ofDocuments statements → ∃ f, compile tree root rewrites file =
        .error (.compilation "Failed to execute compiled document" (.ofFault f)
          (some (pathText path)))) := by
  have compiles := compile_of_prepared here top sourced parsed made
  rw [← exists_readMetadata]
  cases told : readMetadata .ofDocuments statements with
  | error f =>
      rw [told] at compiles
      change _ = Except.error (executeFailure path f) at compiles
      rw [compiles]
      exact ⟨by simp, nofun, fun _ => ⟨f, rfl⟩⟩
  | ok metadata =>
      rw [told] at compiles
      rw [compiles]
      refine ⟨iff_of_true ⟨_, rfl⟩ ⟨metadata, rfl⟩, ?_, fun none => absurd ⟨metadata, rfl⟩ none⟩
      rintro d ⟨⟩
      exact ⟨id_kept told, props_kept told⟩

/-- A template that sets its id twice. The first value could not be an id. -/
def twiceSource : String :=
  "\x7b% set document_id = 5 %\x7d\x7b% set document_id = 'ab' %\x7d"

def twiceStatements : List Stmt :=
  [.assign 1 (.name "document_id") (.constant (.int 5)),
    .assign 1 (.name "document_id") (.constant (.text "ab"))]

/-- A template that sets its id and its properties to nothing. -/
def noneSource : String :=
  "\x7b% set document_id = none %\x7d\x7b% set preview_props = none %\x7d"

def noneStatements : List Stmt :=
  [.assign 1 (.name "document_id") (.constant .none),
    .assign 1 (.name "preview_props") (.constant .none)]

def settingsTree : Tree where
  nodes := [(["none.html"], .file (Text.encodeUtf8 noneSource)),
    (["twice.html"], .file (Text.encodeUtf8 twiceSource))]

theorem twice_compiled : Accepted .ofDocuments twiceStatements ∧
    ∃ d, compile settingsTree [] false ["twice.html"] = .ok d ∧ d.id = some "ab" ∧
      d.previewProps = [] := by
  have sourced : readSource settingsTree false ["twice.html"] = .ok ⟨twiceSource, none⟩ :=
    readSource_of_octets rfl (by decide) rfl false
  have tokens : Template.tokenize true twiceSource =
      Template.settingTokens idName (.integer 5) ++ Template.settingTokens idName (.text "ab") ++
        [⟨1, .finish⟩] := by cbv
  have parsed : Template.read true twiceSource = .ok twiceStatements := by
    rw [Template.read, tokens]
    rfl
  obtain ⟨template, made⟩ : ∃ t, Compiled.ofStatements .ofDocuments (some "twice.html")
      twiceStatements = .ok t := ⟨_, rfl⟩
  have accepted : Accepted .ofDocuments twiceStatements :=
    (exists_readMetadata _ _).1 ⟨⟨some "ab", []⟩, rfl⟩
  have here : resolve settingsTree ["twice.html"] = .ok ["twice.html"] := rfl
  have top : resolve settingsTree [] = .ok [] := rfl
  obtain ⟨compiles, keeps, _⟩ :=
    compiled_iff_accepted settingsTree [] ["twice.html"] false here top sourced parsed made
  obtain ⟨d, compiled⟩ := compiles.2 accepted
  obtain ⟨⟨_, id⟩, props, _⟩ := keeps d compiled
  exact ⟨accepted, d, compiled, id _ (.text "ab") rfl rfl, props rfl⟩

/-- A template whose last settings are no text and no mapping is compiled all the same. -/
theorem none_compiled :
    settings idName noneStatements = [.constant .none] ∧
      settings propsName noneStatements = [.constant .none] ∧
      HasValue .ofDocuments (.constant .none) .none ∧
      Template.read true noneSource = .ok noneStatements ∧
      ∃ d, compile settingsTree [] false ["none.html"] = .ok d ∧ d.id = none ∧
        d.previewProps = [] := by
  have sourced : readSource settingsTree false ["none.html"] = .ok ⟨noneSource, none⟩ :=
    readSource_of_octets rfl (by decide) rfl false
  have tokens : Template.tokenize true noneSource =
      Template.settingTokens idName (.name "none") ++ Template.settingTokens propsName (.name "none") ++
        [⟨1, .finish⟩] := by cbv
  have parsed : Template.read true noneSource = .ok noneStatements := by
    rw [Template.read, tokens]
    rfl
  obtain ⟨template, made⟩ : ∃ t, Compiled.ofStatements .ofDocuments (some "none.html")
      noneStatements = .ok t := ⟨_, rfl⟩
  exact ⟨rfl, rfl, rfl, parsed, _, compile_eq_ok.2
    ⟨["none.html"], [], _, noneStatements, template, ⟨none, []⟩, rfl, rfl, sourced, parsed, made, rfl,
      rfl⟩, rfl, rfl⟩

end DocumentServer.Document
