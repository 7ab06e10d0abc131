import DocumentServer.Document.Compiler
import DocumentServer.Proofs.Fault
import DocumentServer.Proofs.Markup.Stylesheet

/-!
What the stylesheet of a document does to its pages: a page is what the template writes, with one block of
styles put in.
-/
namespace DocumentServer.Document
open Files Markup

variable {d : Document} {css : String}

/-- What the template of a document writes, before any styles are put in. -/
def output (d : Document) (tree : Tree) (props : List (Value × Value)) : Except Template.Failure String :=
  match contextOf? props with
  | none => .error { fault := .wrongType "keywords must be strings", line := none }
  | some values =>
    let world : Template.World := { environment := d.environment, load := d.load tree }
    world.render { template := d.template, isMain := true } values

theorem render_eq_map_output (d : Document) (tree : Tree) (props : List (Value × Value)) :
    d.render tree props = (d.output tree props).map fun markup => injectStylesheet markup d.css := by
  rw [render, output]
  cases contextOf? props <;> rfl

/-- A document with a stylesheet renders to what its template writes, with one block put in where the page is
split for it. -/
theorem render_styled (styled : d.css = some css) (given : css ≠ "") (tree : Tree)
    (props : List (Value × Value)) (page : String) :
    d.render tree props = .ok page ↔ ∃ before after,
      d.output tree props = .ok (before ++ after) ∧ StyleSplit before.toList after.toList ∧
      page = before ++ "<style>" ++ css ++ "</style>" ++ after := by
  rw [render_eq_map_output, map_eq_ok, styled]
  constructor
  · rintro ⟨markup, written, rfl⟩
    obtain ⟨⟨before, after⟩, ⟨rfl, split⟩, -⟩ := existsUnique_styleSplit markup
    exact ⟨before, after, written, split, injectStylesheet_append given split⟩
  · rintro ⟨before, after, written, split, rfl⟩
    exact ⟨before ++ after, written, injectStylesheet_append given split⟩

/-- Every page has exactly one split at its first closing head tag, or at its beginning if it has none, and a
stylesheet that is not empty is put in there as one block. So a document with such a stylesheet fails as its
template does, and its pages are what the template writes with that block and nothing else changed. -/
theorem styles_are_put_in_once (given : css ≠ "") :
    (∀ markup : String, ∃! split : String × String,
      split.1 ++ split.2 = markup ∧ StyleSplit split.1.toList split.2.toList) ∧
    (∀ before after : String, StyleSplit before.toList after.toList →
      injectStylesheet (before ++ after) (some css) =
        before ++ "<style>" ++ css ++ "</style>" ++ after) ∧
    ∀ (d : Document) (tree : Tree) (props : List (Value × Value)), d.css = some css →
      (∀ failure, d.render tree props = .error failure ↔ d.output tree props = .error failure) ∧
      ∀ page, d.render tree props = .ok page ↔ ∃ before after : String,
        d.output tree props = .ok (before ++ after) ∧ StyleSplit before.toList after.toList ∧
        page = before ++ "<style>" ++ css ++ "</style>" ++ after := by
  refine ⟨existsUnique_styleSplit, fun before after => injectStylesheet_append given, ?_⟩
  intro d tree props styled
  refine ⟨fun failure => ?_, render_styled styled given tree props⟩
  rw [render_eq_map_output, map_eq_error]

/-! ## A page with a look-alike and two closing head tags -/

/-- A document with one page, and a stylesheet that names a closing head tag itself. -/
def headed : Document :=
  { environment := .ofDocuments,
    template := { name := none, statements := [.output [.data "<head></header></HEAD\t></head>"]],
                  blocks := [], mayExtend := false },
    path := [], root := [], css := some "p::after \x7b content: '</head>' \x7d", id := none,
    previewProps := [] }

theorem headed_styled :
    "p::after \x7b content: '</head>' \x7d" ≠ "" ∧
    headed.css = some "p::after \x7b content: '</head>' \x7d" ∧
    headed.output .empty [] = .ok "<head></header></HEAD\t></head>" ∧
    headed.render .empty [] =
      .ok "<head></header><style>p::after \x7b content: '</head>' \x7d</style></HEAD\t></head>" := by
  have given : "p::after \x7b content: '</head>' \x7d" ≠ "" := by decide
  have written : headed.output .empty [] = .ok ("<head></header>" ++ "</HEAD\t></head>") := by
    with_unfolding_all rfl
  have split : StyleSplit "<head></header>".toList "</HEAD\t></head>".toList :=
    styleSplit_iff.2 (by decide)
  obtain ⟨-, pages⟩ := (styles_are_put_in_once given).2.2 headed .empty [] rfl
  exact ⟨given, rfl, written, (pages _).2 ⟨_, _, written, split, rfl⟩⟩

end DocumentServer.Document
