import DocumentServer.Proofs.Document.Compiling
import DocumentServer.Proofs.Template.Compiled
import DocumentServer.Proofs.Template.Statement
import DocumentServer.Proofs.Template.Tokens

/-!
What becomes of a document when the references in its source are rewritten. Where no reference that
gets a dot stands inside of a tag, the document says the same of itself.
-/
namespace DocumentServer
open Template

namespace Document
open Files

variable {tree : Tree} {root file path : Path} {e : Environment}

/-! ## Metadata -/

theorem assignments_outline (e : Environment) (ss : List Stmt) :
    assignments e (outlineAll ss) = assignments e ss := by
  induction ss with
  | nil => rfl
  | cons s rest ih =>
      cases s with
      | assign line target value =>
          cases target <;> simp only [outlineAll, Stmt.outline, assignments, ih]
      | _ => exact ih

theorem readMetadata_outline (e : Environment) (ss : List Stmt) :
    readMetadata e (outlineAll ss) = readMetadata e ss := by
  rw [readMetadata, assignments_outline, readMetadata]

/-! ## Sources -/

theorem noReturn_of_readText {text : String} (reads : readText tree path = .ok text) :
    '\r' ∉ text.toList := by
  obtain ⟨octets, -, decodes⟩ := bind_eq_ok.1 reads
  split at decodes
  · cases decodes
    rw [Text.unifyNewlines, String.toList_ofList]
    exact noReturn_unifyNewlineChars _
  · cases decodes

theorem readSource_plain {source : Source} :
    readSource tree false path = .ok source ↔
      readText tree path = .ok source.text ∧ readStylesheet tree path = .ok source.css := by
  simp only [readSource, bind_eq_ok, Bool.false_eq_true, if_false]
  constructor
  · rintro ⟨text, reads, css, styled, same⟩
    cases same
    exact ⟨reads, styled⟩
  · rintro ⟨reads, styled⟩
    exact ⟨source.text, reads, source.css, styled, rfl⟩

theorem readSource_rewritten {text : String} {css : Option String}
    (reads : readText tree path = .ok text) (styled : readStylesheet tree path = .ok css) :
    readSource tree true path = .ok
      { text := Markup.rewriteStaticUrls text, css := css.map Markup.rewriteStaticUrls } := by
  simp only [readSource, reads, styled, ok_bind]
  rfl

/-- No reference in a file that gets a dot stands inside of a tag. -/
def KeepsTags (tree : Tree) (file : Path) : Prop :=
  ∀ path text, resolve tree file = .ok path → readText tree path = .ok text →
    keepsTags text = true

/-- A file that keeps its tags is compiled with rewritten references too, to a document that says
the same of itself. -/
theorem compile_rewritten {d : Document} (keeps : KeepsTags tree file)
    (compiled : compile tree root false file = .ok d) :
    ∃ d', compile tree root true file = .ok d' ∧ d'.id = d.id ∧ d'.previewProps = d.previewProps := by
  obtain ⟨path, folder, source, statements, template, metadata, here, top, sourced, parsed, made, told,
    rfl⟩ := compile_eq_ok.1 compiled
  obtain ⟨reads, styled⟩ := readSource_plain.1 sourced
  have kept := keeps path source.text here reads
  obtain ⟨statements', parsed', same⟩ :=
    read_alike (outline_tokenize (noReturn_of_readText reads) kept) parsed
  obtain ⟨template', made'⟩ : ∃ template', Compiled.ofStatements .ofDocuments
      (some (templateName folder path)) statements' = .ok template' := by
    have alike := Compiled.ofStatements_outline .ofDocuments (some (templateName folder path))
    have ends := alike statements'
    rw [same, alike statements, made] at ends
    obtain ⟨template', made', -⟩ := map_eq_ok.1 ends.symm
    exact ⟨template', made'⟩
  have told' : readMetadata .ofDocuments statements' = .ok metadata := by
    rw [← readMetadata_outline, same, readMetadata_outline, told]
  exact ⟨_, compile_eq_ok.2 ⟨path, folder, _, statements', template', metadata, here, top,
    readSource_rewritten reads styled, parsed', made', told', rfl⟩, rfl, rfl⟩

end Document
end DocumentServer
