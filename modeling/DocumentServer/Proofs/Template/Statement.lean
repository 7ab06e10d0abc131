import DocumentServer.Proofs.Template.Expression
import DocumentServer.Template.Statement

/-!
Readers of statements do not look at the text outside of tags: on streams that are alike they give
statements with the same outline.
-/
namespace DocumentServer.Template

namespace Statement
open Parse Expression

variable {α β : Type}

/-! ## Statements without a body -/

instance blind_candidate (attributes : Bool) : Blind (candidate attributes) := by
  unfold candidate
  refine @blind_bind _ _ _ _ _ fun found => ?_
  split <;> infer_instance

instance blind_cannotAssign (kind : String) : Blind (cannotAssign kind : Parse α) := blind_fail _

instance blind_assignTarget (words : List String) (attributes : Bool) :
    Blind (assignTarget words attributes) := by
  unfold assignTarget
  refine @blind_bind _ _ _ _ _ fun found => ?_
  split
  · split <;> infer_instance
  · infer_instance
  · exact blind_lexeme (.of_swap rfl rfl) fun _ => inferInstance
  · split <;> infer_instance

instance blind_assignName : Blind assignName := by
  unfold assignName
  infer_instance

instance blind_bindingStep (bindings : List (Target × Expr)) : Blind (bindingStep bindings) := by
  unfold bindingStep
  exact blind_lexeme (.of_swap rfl rfl) fun _ => inferInstance

instance blind_extend : Blind extend := by
  unfold extend
  exact blind_advance (fun _ => .of_swap rfl rfl) fun _ => inferInstance

instance blind_passLook {p q : Parse α} [Blind p] [Blind q] (word : String) :
    Blind (look >>= fun l => if l.isName word then p else q) :=
  blind_look (.of_swap rfl rfl) fun _ => inferInstance

instance blind_withContext (default : Bool) : Blind (withContext default) := by
  unfold withContext
  infer_instance

instance blind_insert : Blind insert := by
  unfold insert
  refine blind_advance (fun _ => .of_swap rfl rfl) fun first =>
    @blind_bind _ _ _ _ _ fun template =>
    @blind_bind _ _ _ _ _ fun ignoring => ?_
  dsimp only
  split
  · exact blind_look (.of_swap rfl rfl) fun _ => inferInstance
  · infer_instance

instance blind_importModule : Blind importModule := by
  unfold importModule
  exact blind_advance (fun _ => .of_swap rfl rfl) fun _ => inferInstance

instance blind_contextClause : Blind contextClause := by
  unfold contextClause
  infer_instance

instance blind_privateImport : Blind (privateImport : Parse α) := blind_throw _

instance blind_importStep (s : Imports) : Blind (importStep s) := by
  unfold importStep
  split
  · infer_instance
  · extract_lets names
    have blind : Blind (names ()) := by
      refine blind_lexeme (.of_swap rfl rfl) fun found => ?_
      split
      · refine @blind_bind _ _ _ _ _ fun clause => ?_
        split <;> infer_instance
      · infer_instance
    infer_instance

instance blind_importNames : Blind importNames := by
  unfold importNames
  exact blind_advance (fun _ => .of_swap rfl rfl) fun _ => inferInstance

instance blind_parameterStep (parameters : List Parameter) : Blind (parameterStep parameters) := by
  unfold parameterStep
  infer_instance

instance blind_parameterList : Blind parameterList := by
  unfold parameterList
  infer_instance

instance blind_printStep (pieces : List Piece) : Blind (printStep pieces) := by
  unfold printStep
  exact blind_lexeme (.of_swap rfl rfl) fun _ => inferInstance

instance blind_print : Blind print := by
  unfold print
  infer_instance

/-! ## Bodies -/

def SameOutline (s s' : Stmt) : Prop := s'.outline = s.outline

def SameOutlines (ss ss' : List Stmt) : Prop := outlineAll ss' = outlineAll ss

/-- A reader of bodies that gives bodies with the same outline on streams that are alike. -/
def BodyTracks (statements : Body) : Prop :=
  ∀ words, Tracks SameOutlines (statements words) (statements words)

theorem tracks_blind {R : α → α → Prop} {p : Parse α} [Blind p] (reflexive : ∀ a, R a a) :
    Tracks R p p := by
  refine (Blind.tracks (p := p)).mono ?_
  rintro a _ rfl
  exact reflexive a

/-- A reader that always reports a fault is followed by any other. -/
theorem tracks_failing {R : α → β → Prop} {p : Parse α} (fails : ∀ s, ∃ fault, p s = .error fault)
    (q : Parse β) : Tracks R p q := by
  intro s s' alike a t found
  obtain ⟨fault, same⟩ := fails s
  rw [same] at found
  cases found

variable {statements : Body}

theorem tracks_body (tracks : BodyTracks statements) (words : List String) :
    Tracks SameOutlines (body statements words) (body statements words) := by
  unfold body
  refine Tracks.after fun _ => Tracks.after fun _ => (tracks (some words)).bind ?_
  intro found found' same
  refine Tracks.seeing (.of_swap rfl rfl) fun l => ?_
  split
  · exact tracks_failing (fun s => ⟨_, rfl⟩) _
  · exact tracks_pure same

theorem tracks_closedBody (tracks : BodyTracks statements) (word : String) :
    Tracks SameOutlines (closedBody statements word) (closedBody statements word) := by
  unfold closedBody
  refine (tracks_body tracks [word]).bind fun found found' same => ?_
  exact tracks_advance.bind fun _ _ _ => tracks_pure same

/-! ## Statements with a body -/

theorem tracks_set (tracks : BodyTracks statements) :
    Tracks SameOutline (set statements) (set statements) := by
  unfold set
  refine Tracks.passing (fun _ => .of_swap rfl rfl) fun first =>
    Tracks.after fun target => Tracks.after fun assigns => ?_
  split
  · exact tracks_blind fun _ => rfl
  · refine Tracks.after fun filtered => (tracks_closedBody tracks "endset").bind ?_
    intro found found' same
    exact tracks_pure (congrArg (Stmt.capture first.line target _) same)

theorem tracks_loop (tracks : BodyTracks statements) :
    Tracks SameOutline (loop statements) (loop statements) := by
  unfold loop
  refine Tracks.passing (fun _ => .of_swap rfl rfl) fun first => Tracks.after fun target => ?_
  refine (tracks_expectName "in").bind fun _ _ _ => Tracks.after fun items =>
    Tracks.after fun isTested => ?_
  extract_lets rest
  have each (test : Option Located) : Tracks SameOutline (rest test) (rest test) := by
    refine Tracks.after fun isRecursive => (tracks_body tracks _).bind fun inner inner' same => ?_
    refine Tracks.passing (fun _ => .of_swap rfl rfl) fun closing => ?_
    dsimp only
    split
    · refine Tracks.after fun otherwise => tracks_pure ?_
      simp only [SameOutline, Stmt.outline, show outlineAll inner' = outlineAll inner from same]
    · refine (tracks_closedBody tracks _).bind fun otherwise otherwise' same' => tracks_pure ?_
      simp only [SameOutline, Stmt.outline, show outlineAll inner' = outlineAll inner from same,
        show outlineAll otherwise' = outlineAll otherwise from same']
  split
  · exact Tracks.after each
  · exact Tracks.after each

/-- Arms of a choice whose bodies have the same outline. -/
structure ArmsAlike (a a' : Arms) : Prop where
  line : a'.line = a.line
  arms : outlineArms a'.arms = outlineArms a.arms
  otherwise : outlineAll a'.otherwise = outlineAll a.otherwise
  isDone : a'.isDone = a.isDone

theorem tracks_armStep (tracks : BodyTracks statements) {a a' : Arms} (alike : ArmsAlike a a') :
    Tracks (Option.Rel ArmsAlike) (armStep statements a) (armStep statements a') := by
  unfold armStep
  rw [alike.isDone]
  split
  · exact tracks_pure .none
  refine Tracks.after fun test => (tracks_body tracks _).bind fun inner inner' same => ?_
  have arms : outlineArms (a'.arms ++ [(a'.line, test.expr, inner')]) =
      outlineArms (a.arms ++ [(a.line, test.expr, inner)]) := by
    simp only [outlineArms_append, outlineArms, alike.arms, alike.line,
      show outlineAll inner' = outlineAll inner from same]
  refine Tracks.passing (fun _ => .of_swap rfl rfl) fun closing => ?_
  split
  · exact Tracks.after fun line => tracks_pure (.some ⟨rfl, arms, alike.otherwise, rfl⟩)
  · split
    · exact (tracks_closedBody tracks _).bind fun _ _ otherwise =>
        tracks_pure (.some ⟨alike.line, arms, otherwise, rfl⟩)
    · exact tracks_pure (.some ⟨alike.line, arms, alike.otherwise, rfl⟩)

theorem tracks_branch (tracks : BodyTracks statements) :
    Tracks SameOutline (branch statements) (branch statements) := by
  unfold branch
  refine Tracks.passing (fun _ => .of_swap rfl rfl) fun first => ?_
  refine (Tracks.extendAll (fun a a' => tracks_armStep tracks) ⟨rfl, rfl, rfl, rfl⟩).bind ?_
  intro found found' alike
  refine tracks_pure ?_
  simp only [SameOutline, Stmt.outline, alike.arms, alike.otherwise]

theorem tracks_bind (tracks : BodyTracks statements) :
    Tracks SameOutline (Statement.bind statements) (Statement.bind statements) := by
  unfold Statement.bind
  refine Tracks.passing (fun _ => .of_swap rfl rfl) fun first => Tracks.after fun bindings => ?_
  exact (tracks_closedBody tracks _).bind fun _ _ same => tracks_pure (congrArg (Stmt.bind bindings) same)

theorem tracks_escaping (tracks : BodyTracks statements) :
    Tracks SameOutline (escaping statements) (escaping statements) := by
  unfold escaping
  refine Tracks.passing (fun _ => .of_swap rfl rfl) fun first => Tracks.after fun enabled => ?_
  exact (tracks_closedBody tracks _).bind fun _ _ same =>
    tracks_pure (congrArg (Stmt.escaping enabled.expr) same)

theorem tracks_define (tracks : BodyTracks statements) :
    Tracks SameOutline (define statements) (define statements) := by
  unfold define
  refine Tracks.passing (fun _ => .of_swap rfl rfl) fun first =>
    Tracks.after fun name => Tracks.after fun parameters => ?_
  exact (tracks_closedBody tracks _).bind fun _ _ same =>
    tracks_pure (congrArg (Stmt.define first.line name parameters) same)

theorem tracks_filtered (tracks : BodyTracks statements) :
    Tracks SameOutline (filtered statements) (filtered statements) := by
  unfold filtered
  refine Tracks.passing (fun _ => .of_swap rfl rfl) fun word =>
    Tracks.after fun first => Tracks.after fun filter => ?_
  exact (tracks_closedBody tracks _).bind fun _ _ same =>
    tracks_pure (congrArg (Stmt.filtered word.line filter.expr) same)

theorem tracks_callWith (tracks : BodyTracks statements) :
    Tracks SameOutline (callWith statements) (callWith statements) := by
  unfold callWith
  refine Tracks.passing (fun _ => .of_swap rfl rfl) fun first => Tracks.after fun parenthesis => ?_
  extract_lets rest
  have each (parameters : List Parameter) :
      Tracks SameOutline (rest parameters) (rest parameters) := by
    refine Tracks.after fun call => ?_
    split
    · exact (tracks_closedBody tracks _).bind fun _ _ same =>
        tracks_pure (congrArg (Stmt.callWith first.line parameters _) same)
    · exact tracks_blind fun _ => rfl
  split
  · exact Tracks.after each
  · exact Tracks.after each

theorem isBlank_outline (s : Stmt) : isBlank s.outline = isBlank s := by
  cases s with
  | output pieces =>
      unfold isBlank Stmt.outline
      dsimp only
      rw [List.all_map]
      congr 1
      funext piece
      cases piece with
      | data text => exact all_isBlank_outlineText text
      | print line value => rfl
  | _ => rfl

theorem all_isBlank_outline (ss : List Stmt) : (outlineAll ss).all isBlank = ss.all isBlank := by
  induction ss with
  | nil => rfl
  | cons s ss ih => rw [outlineAll, List.all_cons, List.all_cons, isBlank_outline, ih]

theorem tracks_block (tracks : BodyTracks statements) :
    Tracks SameOutline (block statements) (block statements) := by
  unfold block
  refine Tracks.passing (fun _ => .of_swap rfl rfl) fun first =>
    Tracks.after fun name => Tracks.after fun isScoped =>
    Tracks.after fun isRequired => Tracks.after fun hyphen => ?_
  dsimp only
  split
  · exact tracks_failing (fun s => ⟨_, rfl⟩) _
  · refine (tracks_closedBody tracks _).bind fun inner inner' same => ?_
    rw [← all_isBlank_outline inner', show outlineAll inner' = outlineAll inner from same,
      all_isBlank_outline]
    split
    · exact tracks_failing (fun s => ⟨_, rfl⟩) _
    · exact Tracks.after fun _ =>
        tracks_pure (congrArg (Stmt.block first.line name.2 isScoped isRequired) same)

/-! ## All statements -/

theorem of_lookup {table : List (String × Parse Stmt)} {P : Parse Stmt → Prop}
    (each : ∀ entry ∈ table, P entry.2) {word : String} {reader : Parse Stmt}
    (found : table.lookup word = some reader) : P reader := by
  obtain ⟨before, behind, split, -⟩ := List.lookup_eq_some_iff.1 found
  exact each (word, reader) (split ▸ List.mem_append_right before List.mem_cons_self)

theorem tracks_reader {word : String} {reader : Parse Stmt} (tracks : BodyTracks statements)
    (found : reader? statements word = some reader) : Tracks SameOutline reader reader := by
  refine of_lookup (P := fun reader => Tracks SameOutline reader reader) ?_ found
  simp only [List.forall_mem_cons]
  exact ⟨tracks_loop tracks, tracks_branch tracks, tracks_block tracks, tracks_blind fun _ => rfl,
    tracks_blind fun _ => rfl, tracks_define tracks, tracks_blind fun _ => rfl,
    tracks_blind fun _ => rfl, tracks_blind fun _ => rfl, tracks_set tracks, tracks_bind tracks,
    tracks_escaping tracks, tracks_callWith tracks, tracks_filtered tracks, List.forall_mem_nil _⟩

theorem tracks_statement (tracks : BodyTracks statements) :
    Tracks SameOutline (statement statements) (statement statements) := by
  unfold statement
  refine Tracks.seeing (.of_swap rfl rfl) fun l => ?_
  split
  · next word =>
      split
      · exact tracks_failing (fun s => ⟨_, rfl⟩) _
      · next reader found =>
          have opens : Blind (modify fun s : Stream => { s with tags := word :: s.tags }) :=
            blind_modify fun alike =>
              ⟨alike.tokens, alike.bound, congrArg (word :: ·) alike.tags, alike.endings⟩
          have closes : Blind (modify fun s : Stream => { s with tags := s.tags.drop 1 }) :=
            blind_modify fun alike =>
              ⟨alike.tokens, alike.bound, congrArg (List.drop 1) alike.tags, alike.endings⟩
          exact Tracks.after fun _ => (tracks_reader tracks found).bind fun _ _ same =>
            Tracks.after fun _ => tracks_pure same
  · exact tracks_blind fun _ => rfl

/-- What has been read so far, with the same outline. -/
structure FoundAlike (f f' : Found) : Prop where
  statements : outlineAll f'.statements = outlineAll f.statements
  pieces : f'.pieces.map Piece.outline = f.pieces.map Piece.outline
  isDone : f'.isDone = f.isDone

theorem FoundAlike.flush {f f' : Found} (alike : FoundAlike f f') : FoundAlike f.flush f'.flush := by
  have empty : f'.pieces.isEmpty = f.pieces.isEmpty := by
    simpa using congrArg List.isEmpty alike.pieces
  unfold Found.flush
  rw [empty]
  split
  · exact alike
  · refine ⟨?_, rfl, alike.isDone⟩
    simp only [outlineAll_append, outlineAll, Stmt.outline, alike.statements, alike.pieces]

/-- More output behind what has been read. -/
theorem FoundAlike.withPiece {f f' : Found} (alike : FoundAlike f f') {piece piece' : Piece}
    (same : piece'.outline = piece.outline) :
    FoundAlike { f with pieces := f.pieces ++ [piece] } { f' with pieces := f'.pieces ++ [piece'] } :=
  ⟨alike.statements, by simp only [List.map_append, List.map_cons, alike.pieces, same],
    alike.isDone⟩

instance blind_endsHere (words : Option (List String)) : Blind (endsHere words) := by
  unfold endsHere
  refine blind_lexeme ⟨fun _ _ => ?_, fun _ _ => ?_⟩ fun l => ?_
  · cases words <;> rfl
  · cases words <;> rfl
  · split <;> infer_instance

/-- A tag that begins a statement or ends the body. -/
def tagStep (statements : Body) (words : Option (List String)) (f : Found) :
    Parse (Option Found) := do
  let f := f.flush
  let _ ← advance
  if ← endsHere words then return some { f with isDone := true }
  let next ← statement statements
  expectBlockEnd
  return some { f with statements := f.statements ++ [next] }

theorem tracks_tagStep (tracks : BodyTracks statements) (words : Option (List String))
    {f f' : Found} (alike : FoundAlike f f') :
    Tracks (Option.Rel FoundAlike) (tagStep statements words f) (tagStep statements words f') := by
  have flushed := alike.flush
  unfold tagStep
  refine Tracks.passing (fun _ => .of_swap rfl rfl) fun _ => Tracks.after fun ends => ?_
  split
  · exact tracks_pure (.some ⟨flushed.statements, flushed.pieces, rfl⟩)
  · refine (tracks_statement tracks).bind fun next next' same => Tracks.after fun _ =>
      tracks_pure (.some ⟨?_, flushed.pieces, flushed.isDone⟩)
    simp only [outlineAll_append, outlineAll, flushed.statements,
      show next'.outline = next.outline from same]

theorem tracks_statementStep (tracks : BodyTracks statements) (words : Option (List String))
    {f f' : Found} (alike : FoundAlike f f') :
    Tracks (Option.Rel FoundAlike) (statementStep statements words f)
      (statementStep statements words f') := by
  have tag := tracks_tagStep tracks words alike
  unfold statementStep
  by_cases done : f.isDone = true
  · rw [if_pos done, if_pos (alike.isDone.trans done)]
    exact tracks_pure .none
  rw [if_neg done, if_neg (alike.isDone ▸ done)]
  refine tracks_lexeme.bind fun l l' same => ?_
  obtain rfl | ⟨text, text', rfl, rfl, blank⟩ | ⟨fault, fault', rfl, rfl⟩ := same.cases
  · split
    · exact tracks_pure .none
    · exact Tracks.passing (fun _ => .of_swap rfl rfl) fun _ =>
        tracks_pure (.some (alike.withPiece rfl))
    · refine Tracks.passing (fun _ => .of_swap rfl rfl) fun _ =>
        Tracks.after fun value => Tracks.after fun _ => ?_
      exact tracks_pure (.some (alike.withPiece rfl))
    · exact tag
  · have same : (Piece.data text').outline = (Piece.data text).outline := congrArg Piece.data blank
    exact Tracks.passing (fun _ => .of_swap rfl rfl) fun _ =>
      tracks_pure (.some (alike.withPiece same))
  · exact tag

theorem tracks_statements (fuel : Nat) : BodyTracks (Statement.statements fuel) := by
  induction fuel with
  | zero => exact fun words => tracks_failing (fun s => ⟨_, rfl⟩) _
  | succ fuel ih =>
      intro words
      have opens : Blind (modify fun s : Stream => { s with endings := words.toList ++ s.endings }) :=
        blind_modify fun alike =>
          ⟨alike.tokens, alike.bound, alike.tags, congrArg (words.toList ++ ·) alike.endings⟩
      have closes : Blind (modify fun s : Stream =>
          { s with endings := s.endings.drop words.toList.length }) :=
        blind_modify fun alike =>
          ⟨alike.tokens, alike.bound, alike.tags,
            congrArg (List.drop words.toList.length) alike.endings⟩
      unfold Statement.statements
      refine Tracks.after fun _ => ?_
      refine (Tracks.extendAll (fun _ _ => tracks_statementStep ih words) ⟨rfl, rfl, rfl⟩).bind ?_
      exact fun found found' same => Tracks.after fun _ => tracks_pure same.flush.statements

end Statement

/-- Templates whose tokens are alike are read alike. -/
theorem read_alike {keepLastNewline : Bool} {source source' : String}
    (alike : (tokenize keepLastNewline source').map Token.outline =
      (tokenize keepLastNewline source).map Token.outline)
    {found : List Stmt} (reads : read keepLastNewline source = .ok found) :
    ∃ found', read keepLastNewline source' = .ok found' ∧ outlineAll found' = outlineAll found := by
  have count : (tokenize keepLastNewline source').length = (tokenize keepLastNewline source).length := by
    simpa using congrArg List.length alike
  have streams : Stream.Alike
      { tokens := tokenize keepLastNewline source
        bound := (tokenize keepLastNewline source).length, tags := [], endings := [] }
      { tokens := tokenize keepLastNewline source'
        bound := (tokenize keepLastNewline source').length, tags := [], endings := [] } :=
    ⟨alike, count, rfl, rfl⟩
  have readers := (Parse.tracks_check alike).bind fun _ _ _ =>
    Statement.tracks_statements ((tokenize keepLastNewline source).length + 1) none
  obtain ⟨⟨ss, rest⟩, run, same⟩ := bind_eq_ok.1 reads
  cases same
  obtain ⟨found', rest', run', outline, -⟩ := readers streams run
  rw [← count] at run'
  exact ⟨found', bind_eq_ok.2 ⟨(found', rest'), run', rfl⟩, outline⟩

end DocumentServer.Template
