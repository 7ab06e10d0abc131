import DocumentServer.Document.Compiler
import DocumentServer.Proofs.Fault
import DocumentServer.Proofs.Text.Utf8
import DocumentServer.Registry.Rendering

/-!
What a document that has been compiled was made of, and what a document without statements renders
as.
-/
namespace DocumentServer

namespace Template

/-- The tokens of a statement in the first line that sets a name. -/
def settingTokens (name : String) (value : Lexeme) : List Token :=
  [⟨1, .blockBegin⟩, ⟨1, .name "set"⟩, ⟨1, .name name⟩, ⟨1, .operator "="⟩, ⟨1, value⟩, ⟨1, .blockEnd⟩]

/-- A template that does nothing but give itself an id. -/
theorem read_id {source id : String}
    (tokens : tokenize true source =
      settingTokens "document_id" (.text id) ++ [⟨1, .finish⟩]) :
    read true source = .ok [.assign 1 (.name "document_id") (.constant (.text id))] := by
  rw [read, tokens]
  rfl

namespace World
open Run

variable (w : World) {loaded : Loaded}

theorem runAll_nil (fuel : Nat) (frame : Frame) (line : Nat) :
    w.runAll (fuel + 1) frame line [] = pure () := by
  rw [runAll]
  rfl

theorem runTemplate_blank (blank : loaded.template.statements = []) (fuel : Nat)
    (base : Association String Value) :
    ∃ after, (w.runTemplate (fuel + 3) loaded base).run .empty = .ok ((), after) ∧
      after.output = "" := by
  rw [runTemplate]
  simp only [runRoot, blank, runAll_nil]
  exact ⟨_, rfl, rfl⟩

/-- A template without statements writes nothing. -/
theorem render_blank (blank : loaded.template.statements = []) (values : Association String Value) :
    w.render loaded values = .ok "" := by
  obtain ⟨after, ran, nothing⟩ :=
    w.runTemplate_blank blank 3997 (Association.merge globals values)
  have deep : maxDepth = 3997 + 3 := rfl
  rw [render, deep, ran]
  exact congrArg Except.ok nothing

end World
end Template

namespace Document
open Files

variable {tree : Tree} {root file : Path} {rewrites : Bool} {d : Document}

/-- A file is compiled once its source has been read, parsed and prepared, and its metadata read. -/
theorem compile_eq_ok : compile tree root rewrites file = .ok d ↔
    ∃ path folder source statements template metadata,
      resolve tree file = .ok path ∧ resolve tree root = .ok folder ∧
      readSource tree rewrites path = .ok source ∧
      Template.read Template.Environment.ofDocuments.keepsLastNewline source.text = .ok statements ∧
      Template.Compiled.ofStatements .ofDocuments (some (templateName folder path)) statements =
        .ok template ∧
      readMetadata .ofDocuments statements = .ok metadata ∧
      d = { environment := .ofDocuments, template, path, root, css := source.css,
            id := metadata.id, previewProps := metadata.previewProps } := by
  simp only [compile, bind_eq_ok, mapError_eq_ok, pure, Except.pure, Except.ok.injEq]
  constructor
  · rintro ⟨path, here, folder, top, _, ⟨source, read, statements, parsed, template, made, rfl⟩,
      metadata, told, rfl⟩
    exact ⟨path, folder, source, statements, template, metadata, here, top, read, parsed, made, told,
      rfl⟩
  · rintro ⟨path, folder, source, statements, template, metadata, here, top, read, parsed, made, told,
      rfl⟩
    exact ⟨path, here, folder, top, _, ⟨source, read, statements, parsed, template, made, rfl⟩,
      metadata, told, rfl⟩

/-! ## Files that were written from a text -/

variable {path : Path} {text : String}

theorem readText_of_octets (octets : readOctets tree path = .ok (Text.encodeUtf8 text))
    (unified : Text.unifyNewlines text = text) : readText tree path = .ok text := by
  rw [readText, octets, ok_bind, Text.decodeUtf8_encodeUtf8]
  simp only [unified]
  rfl

/-- A file that holds a text with plain line ends, and has no stylesheet, is read as that text. -/
theorem readSource_of_octets (octets : readOctets tree path = .ok (Text.encodeUtf8 text))
    (unified : Text.unifyNewlines text = text)
    (unstyled : isFileAt tree (stylesheetPath path) = .ok false) (rewrites : Bool) :
    readSource tree rewrites path =
      .ok ⟨if rewrites then Markup.rewriteStaticUrls text else text, none⟩ := by
  have sheet : readStylesheet tree path = .ok none := by
    rw [readStylesheet, unstyled]
    rfl
  rw [readSource, readText_of_octets octets unified, sheet]
  cases rewrites <;> rfl

/-! ## Documents without statements -/

theorem render_blank (blank : d.template.statements = []) (unstyled : d.css = none) (tree : Tree) :
    d.render tree [] = .ok "" := by
  change (Template.World.render _ _ [("props", .dict [])]).map
    (fun markup => Markup.injectStylesheet markup d.css) = _
  rw [unstyled, Template.World.render_blank _ blank]
  rfl

end Document

theorem Entry.render_blank {entry : Entry} (blank : entry.document.template.statements = [])
    (unstyled : entry.document.css = none) (unset : entry.document.previewProps = [])
    (tree : Files.Tree) : entry.render tree [] = .ok ⟨"", none⟩ := by
  have sample : entry.propertiesFor [] = [] := unset
  simp only [Entry.render, sample, Document.render_blank blank unstyled, unstyled]

end DocumentServer
