import DocumentServer.Proofs.Fault
import DocumentServer.Proofs.Template.Outline
import DocumentServer.Template.Compiled

/-!
Whether a template can be made ready to run depends on its outline only: no text outside of tags
is looked at.
-/
namespace DocumentServer.Template

/-! ## What a template says of names and blocks -/

theorem pieceReads_outline (pieces : List Piece) :
    (pieces.map Piece.outline).flatMap Names.pieceReads = pieces.flatMap Names.pieceReads := by
  rw [List.flatMap_map]
  congr 1
  funext piece
  cases piece <;> rfl

mutual

theorem mentions_outline (name : String) (s : Stmt) : s.outline.mentions name = s.mentions name := by
  cases s with
  | output pieces => simp only [Stmt.outline, Stmt.mentions, pieceReads_outline]
  | _ => simp only [Stmt.outline, Stmt.mentions, mentionsIn_outline, mentionsInArms_outline]

theorem mentionsIn_outline (name : String) (ss : List Stmt) :
    mentionsIn name (outlineAll ss) = mentionsIn name ss := by
  cases ss with
  | nil => rfl
  | cons s rest => simp only [outlineAll, mentionsIn, mentions_outline name s, mentionsIn_outline name rest]

theorem mentionsInArms_outline (name : String) (arms : List (Nat × Expr × List Stmt)) :
    mentionsInArms name (outlineArms arms) = mentionsInArms name arms := by
  match arms with
  | [] => rfl
  | (line, test, body) :: rest =>
      simp only [outlineArms, mentionsInArms, mentionsIn_outline name body,
        mentionsInArms_outline name rest]

end

namespace Compiled

mutual

theorem assignsTo_outline (name : String) (s : Stmt) : assignsTo name s.outline = assignsTo name s := by
  cases s <;> simp only [Stmt.outline, assignsTo, assignsIn_outline, assignsInArms_outline]

theorem assignsIn_outline (name : String) (ss : List Stmt) :
    assignsIn name (outlineAll ss) = assignsIn name ss := by
  cases ss with
  | nil => rfl
  | cons s rest => simp only [outlineAll, assignsIn, assignsTo_outline name s, assignsIn_outline name rest]

theorem assignsInArms_outline (name : String) (arms : List (Nat × Expr × List Stmt)) :
    assignsInArms name (outlineArms arms) = assignsInArms name arms := by
  match arms with
  | [] => rfl
  | (line, test, body) :: rest =>
      simp only [outlineArms, assignsInArms, assignsIn_outline name body,
        assignsInArms_outline name rest]

end

mutual

theorem isExtension_outline (s : Stmt) : isExtension s.outline = isExtension s := by
  cases s <;> simp only [Stmt.outline, isExtension, anyExtends_outline, armsExtend_outline]

theorem anyExtends_outline (ss : List Stmt) : anyExtends (outlineAll ss) = anyExtends ss := by
  cases ss with
  | nil => rfl
  | cons s rest => simp only [outlineAll, anyExtends, isExtension_outline s, anyExtends_outline rest]

theorem armsExtend_outline (arms : List (Nat × Expr × List Stmt)) :
    armsExtend (outlineArms arms) = armsExtend arms := by
  match arms with
  | [] => rfl
  | (line, test, body) :: rest =>
      simp only [outlineArms, armsExtend, anyExtends_outline body, armsExtend_outline rest]

end

def outlineBlock (block : String × BlockBody) : String × BlockBody :=
  (block.1, { block.2 with body := outlineAll block.2.body })

mutual

theorem blocksOf_outline (s : Stmt) : blocksOf s.outline = (blocksOf s).map outlineBlock := by
  cases s with
  | block line name isScoped isRequired body =>
      simp only [Stmt.outline, blocksOf, blocksIn_outline body, List.map_cons, outlineBlock]
  | _ =>
      simp only [Stmt.outline, blocksOf, blocksIn_outline, blocksOfArms_outline, List.map_append,
        List.map_nil]

theorem blocksIn_outline (ss : List Stmt) :
    blocksIn (outlineAll ss) = (blocksIn ss).map outlineBlock := by
  cases ss with
  | nil => rfl
  | cons s rest =>
      simp only [outlineAll, blocksIn, blocksOf_outline s, blocksIn_outline rest, List.map_append]

theorem blocksOfArms_outline (arms : List (Nat × Expr × List Stmt)) :
    blocksOfArms (outlineArms arms) = (blocksOfArms arms).map outlineBlock := by
  match arms with
  | [] => rfl
  | (line, test, body) :: rest =>
      simp only [outlineArms, blocksOfArms, blocksIn_outline body, blocksOfArms_outline rest,
        List.map_append]

end

/-! ## Making ready -/

/-- What is known of a statement that was made ready, apart from the statement. -/
def Prepared.told (p : Prepared) : Progress × Bool := (p.progress, p.isEnd)

theorem map_bind_congr {ε α β γ δ : Type} {r : α → δ} {x y : Except ε α}
    (first : x.map r = y.map r) {t : β → γ} {f g : α → Except ε β}
    (second : ∀ a b, r a = r b → (f a).map t = (g b).map t) :
    (x >>= f).map t = (y >>= g).map t := by
  match x, y with
  | .ok a, .ok b => exact second a b (Except.ok.inj first)
  | .error e, .error e' => exact congrArg Except.error (Except.error.inj first)
  | .ok a, .error e => cases first
  | .error e, .ok a => cases first

/-- What follows after statements that were made ready may look at the progress, not at them. -/
theorem map_bind_progress {ε α β γ δ : Type} {x y : Except ε (α × β)}
    (first : x.map Prod.snd = y.map Prod.snd) {t : γ → δ} {f g : α × β → Except ε γ}
    (second : ∀ a a' b, (f (a, b)).map t = (g (a', b)).map t) :
    (x >>= f).map t = (y >>= g).map t := by
  refine map_bind_congr first ?_
  rintro ⟨a, b⟩ ⟨a', _⟩ ⟨⟩
  exact second a a' b

theorem map_bind_same {ε α β γ : Type} {x : Except ε α} {t : β → γ} {f g : α → Except ε β}
    (second : ∀ a, (f a).map t = (g a).map t) : (x >>= f).map t = (x >>= g).map t := by
  cases x with
  | ok a => exact second a
  | error e => rfl

theorem checkCaller_outline (parameters : List Parameter) (body : List Stmt) :
    checkCaller parameters (outlineAll body) = checkCaller parameters body := by
  rw [checkCaller, mentionsIn_outline, checkCaller]

theorem preparePiece_outline (e : Environment) (p : Place) (piece : Piece) :
    (preparePiece e p piece.outline).map (fun _ => ()) = (preparePiece e p piece).map fun _ => () := by
  cases piece <;> rfl

/-- Whether all items of a list can be made ready, where each can be if it can without its text. -/
theorem mapM_outline {α β : Type} {f : α → Except Fault β} {outline : α → α}
    (each : ∀ a, (f (outline a)).map (fun _ => ()) = (f a).map fun _ => ()) (items : List α) :
    ((items.map outline).mapM f).map (fun _ => ()) = (items.mapM f).map fun _ => () := by
  induction items with
  | nil => rfl
  | cons item items ih =>
      rw [List.map_cons, List.mapM_cons, List.mapM_cons]
      refine map_bind_congr (each item) fun _ _ _ => ?_
      exact map_bind_congr ih fun _ _ _ => rfl

mutual

theorem prepare_outline (e : Environment) (p : Place) (g : Progress) (s : Stmt) :
    (prepare e p g s.outline).map Prepared.told = (prepare e p g s).map Prepared.told := by
  cases s with
  | output pieces =>
      simp only [Stmt.outline, prepare]
      split
      · rfl
      · exact map_bind_congr (mapM_outline (preparePiece_outline e p) pieces) fun _ _ _ => rfl
  | branch arms otherwise =>
      simp only [Stmt.outline, prepare]
      refine map_bind_progress (prepareArms_outline e p.arm g arms) fun _ _ g => ?_
      exact map_bind_progress (prepareAll_outline e p.arm g otherwise) fun _ _ _ => rfl
  | loop line target items test isRecursive body otherwise =>
      simp only [Stmt.outline, prepare, assignsIn_outline]
      refine map_bind_same fun test => ?_
      split
      · rfl
      refine map_bind_same fun items => ?_
      refine map_bind_progress (prepareAll_outline e p.inner g body) fun _ _ g => ?_
      exact map_bind_progress (prepareAll_outline e p.inner g otherwise) fun _ _ _ => rfl
  | capture line target filter body =>
      simp only [Stmt.outline, prepare]
      refine map_bind_progress (prepareAll_outline e _ g body) fun _ _ _ => ?_
      exact map_bind_same fun filter => rfl
  | block line name isScoped isRequired body =>
      simp only [Stmt.outline, prepare]
      split <;> rfl
  | define line name parameters body =>
      simp only [Stmt.outline, prepare, checkCaller_outline]
      refine map_bind_same fun _ => map_bind_same fun parameters => ?_
      exact map_bind_progress (prepareAll_outline e _ g body) fun _ _ _ => rfl
  | callWith line parameters call body =>
      simp only [Stmt.outline, prepare, checkCaller_outline]
      refine map_bind_same fun _ => map_bind_same fun parameters => ?_
      refine map_bind_progress (prepareAll_outline e _ g body) fun _ _ _ => ?_
      exact map_bind_same fun call => rfl
  | filtered line filter body =>
      simp only [Stmt.outline, prepare]
      refine map_bind_progress (prepareAll_outline e _ g body) fun _ _ _ => ?_
      exact map_bind_same fun filter => rfl
  | bind bindings body =>
      simp only [Stmt.outline, prepare]
      refine map_bind_same fun bindings => ?_
      exact map_bind_progress (prepareAll_outline e _ g body) fun _ _ _ => rfl
  | escaping enabled body =>
      simp only [Stmt.outline, prepare]
      refine map_bind_same fun enabled' => ?_
      exact map_bind_progress (prepareAll_outline e _ g body) fun _ _ _ => rfl
  | _ => rfl

theorem prepareAll_outline (e : Environment) (p : Place) (g : Progress) (ss : List Stmt) :
    (prepareAll e p g (outlineAll ss)).map Prod.snd = (prepareAll e p g ss).map Prod.snd := by
  cases ss with
  | nil => rfl
  | cons s rest =>
      simp only [outlineAll, prepareAll]
      refine map_bind_congr (prepare_outline e p g s) ?_
      rintro ⟨statements, g, isEnd⟩ ⟨statements', _, _⟩ ⟨⟩
      dsimp only
      split
      · rfl
      exact map_bind_progress (prepareAll_outline e p g rest) fun _ _ _ => rfl

theorem prepareArms_outline (e : Environment) (p : Place) (g : Progress)
    (arms : List (Nat × Expr × List Stmt)) :
    (prepareArms e p g (outlineArms arms)).map Prod.snd =
      (prepareArms e p g arms).map Prod.snd := by
  match arms with
  | [] => rfl
  | (line, test, body) :: rest =>
      simp only [outlineArms, prepareArms]
      refine map_bind_same fun test => ?_
      refine map_bind_progress (prepareAll_outline e p g body) fun _ _ g => ?_
      exact map_bind_progress (prepareArms_outline e p g rest) fun _ _ _ => rfl

end

/-- Whether statements can be made ready depends on their outline only. -/
theorem ofStatements_outline (e : Environment) (name : Option String) (ss : List Stmt) :
    (ofStatements e name (outlineAll ss)).map (fun _ => ()) =
      (ofStatements e name ss).map fun _ => () := by
  have names : ((blocksIn ss).map outlineBlock).map (·.1) = (blocksIn ss).map (·.1) := by
    rw [List.map_map]
    rfl
  simp only [ofStatements, blocksIn_outline, anyExtends_outline, names]
  split
  · rfl
  refine map_bind_progress (prepareAll_outline e _ _ ss) fun _ _ _ => ?_
  refine map_bind_congr (mapM_outline (fun block => ?_) (blocksIn ss)) fun _ _ _ => rfl
  exact map_bind_progress (prepareAll_outline e _ _ block.2.body) fun _ _ _ => rfl

end Compiled
end DocumentServer.Template
