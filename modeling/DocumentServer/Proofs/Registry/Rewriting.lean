import DocumentServer.Proofs.Document.Rewriting
import DocumentServer.Proofs.Files.Search
import DocumentServer.Proofs.Registry.Populating
import Mathlib

/-!
The documents of a registry that rewrites references, next to those of one that does not. They are
the same where each file says the same of its document both ways, and a file does so where no
reference that gets a dot stands inside of a tag. An id is in a tag, so two of them can become one.
-/
namespace DocumentServer

namespace Entry
open Files

/-- The id, the slug, and the names of the sample properties. -/
def summary (entry : Entry) : String × String × List Value :=
  (entry.id, entry.slug, entry.document.previewProps.map (·.1))

variable {tree : Tree} {root file : Path} {document : Document} {entry : Entry}

theorem ofDocument_eq_ok : ofDocument tree root file document = .ok entry ↔
    ∃ path folder, resolve tree file = .ok path ∧ resolve tree root = .ok folder ∧
      entry = { id := idOf file document, slug := slugOf folder path, path, document } := by
  simp only [ofDocument, bind_eq_ok]
  constructor
  · rintro ⟨path, here, folder, top, made⟩
    cases made
    exact ⟨path, folder, here, top, rfl⟩
  · rintro ⟨path, folder, here, top, rfl⟩
    exact ⟨path, here, folder, top, rfl⟩

end Entry

namespace Document

/-- A file says the same of its document when references are rewritten: it still has one, of the
same id and with sample properties of the same names. -/
def SaysTheSame (tree : Files.Tree) (root file : Files.Path) : Prop :=
  ∀ d, compile tree root false file = .ok d →
    ∃ d', compile tree root true file = .ok d' ∧ Entry.idOf file d' = Entry.idOf file d ∧
      d'.previewProps.map (·.1) = d.previewProps.map (·.1)

theorem saysTheSame_of_keepsTags {tree : Files.Tree} {file : Files.Path} (root : Files.Path)
    (keeps : KeepsTags tree file) : SaysTheSame tree root file := by
  intro d compiled
  obtain ⟨d', compiled', id, props⟩ := compile_rewritten keeps compiled
  refine ⟨d', compiled', ?_, by rw [props]⟩
  rw [Entry.idOf, Entry.idOf, id]

end Document

/-- The documents of a registry. -/
def Registry.served (r : Registry) : List (String × String × List Value) :=
  r.index.entries.map Entry.summary

namespace Session

variable {s : Session} {root : Files.Path} {tree : Files.Tree}

/-- What compiles documents for a registry. -/
def compilation (root : Files.Path) (rewrites : Bool) :
    Files.Tree → Files.Path → Except Failure Document :=
  fun tree file => Document.compile tree root rewrites file

/-- A new registry, once it has been asked a question. -/
def askedOnce (root : Files.Path) (tree : Files.Tree) (rewrites : Bool) (question : Request) :
    Registry :=
  ((Session.start root tree).ask (.ofDocuments root rewrites) question).2.registry

/-- With rewriting a file has an entry of the same summary exactly if it says the same of its
document. -/
theorem saysTheSame_iff {file : Files.Path} {entry : Entry}
    (made : s.entryOf (compilation root false) file = .ok entry) :
    (∃ entry', s.entryOf (compilation root true) file = .ok entry' ∧
        entry'.summary = entry.summary) ↔
      Document.SaysTheSame s.tree root file := by
  obtain ⟨d, compiled, told⟩ := entryOf_eq_ok.1 made
  obtain ⟨path, folder, here, top, rfl⟩ := Entry.ofDocument_eq_ok.1 told
  constructor
  · rintro ⟨entry', made', same⟩ given givenCompiled
    obtain rfl := Except.ok.inj (compiled.symm.trans givenCompiled)
    obtain ⟨d', compiled', told'⟩ := entryOf_eq_ok.1 made'
    obtain ⟨path', folder', here', top', rfl⟩ := Entry.ofDocument_eq_ok.1 told'
    simp only [Entry.summary, Prod.mk.injEq] at same
    exact ⟨d', compiled', same.1, same.2.2⟩
  · intro same
    obtain ⟨d', compiled', id, names⟩ := same d compiled
    refine ⟨_, entryOf_eq_ok.2 ⟨d', compiled',
      Entry.ofDocument_eq_ok.2 ⟨path, folder, here, top, rfl⟩⟩, ?_⟩
    simp only [Entry.summary, id, names]

/-- So has a list of files entries of the same summaries, if each of them does. -/
theorem entries_rewritten {files : List Files.Path} {entries : List Entry}
    (made : List.Forall₂ (fun file entry => s.entryOf (compilation root false) file = .ok entry)
      files entries) :
    (∃ entries', List.Forall₂
        (fun file entry => s.entryOf (compilation root true) file = .ok entry) files entries' ∧
        entries'.map Entry.summary = entries.map Entry.summary) ↔
      ∀ file ∈ files, Document.SaysTheSame s.tree root file := by
  induction made with
  | nil => exact ⟨fun _ => nofun, fun _ => ⟨[], .nil, rfl⟩⟩
  | @cons file entry rest others first _ ih =>
      rw [List.forall_mem_cons, ← saysTheSame_iff first, ← ih]
      constructor
      · rintro ⟨entries', made', same⟩
        obtain ⟨entry', others', first', later', rfl⟩ := List.forall₂_cons_left_iff.1 made'
        obtain ⟨head, tail⟩ := List.cons.inj same
        exact ⟨⟨entry', first', head⟩, others', later', tail⟩
      · rintro ⟨⟨entry', first', head⟩, others', later', tail⟩
        exact ⟨entry' :: others', .cons first' later', by rw [List.map_cons, List.map_cons, head, tail]⟩

theorem askedOnce_populated {rewrites : Bool} {question : Request} :
    (askedOnce root tree rewrites question).phase = .populated ↔
      ∃ files entries, (Session.start root tree).listing = .ok files ∧
        List.Forall₂ (fun file entry =>
          (Session.start root tree).entryOf (compilation root rewrites) file = .ok entry)
          files entries ∧ (entries.map (·.id)).Nodup := by
  have populated := (@populated_iff (compilation root rewrites) root tree question).1
  refine populated.trans ?_
  simp only [rebuilt_eq_ok]
  constructor
  · rintro ⟨_, files, entries, listed, made, distinct, _⟩
    exact ⟨files, entries, listed, made, distinct⟩
  · rintro ⟨files, entries, listed, made, distinct⟩
    exact ⟨_, files, entries, listed, made, distinct, rfl⟩

theorem askedOnce_served {rewrites : Bool} {files : List Files.Path} {entries : List Entry}
    (question : Request) (listed : (Session.start root tree).listing = .ok files)
    (made : List.Forall₂ (fun file entry =>
      (Session.start root tree).entryOf (compilation root rewrites) file = .ok entry) files entries)
    (distinct : (entries.map (·.id)).Nodup) :
    (askedOnce root tree rewrites question).served = entries.map Entry.summary := by
  have whole := rebuilt_eq_ok (g := 1).2 ⟨files, entries, listed, made, distinct, rfl⟩
  have live := (populated_iff root tree question).2 _ whole
  have index : (askedOnce root tree rewrites question).index = .ofEntries 1 entries := live
  rw [Registry.served, index, Index.entries_ofEntries]

/-- A registry that is populated without rewriting is populated with rewriting too, by documents of
the same ids, slugs and property names, exactly if every file says the same of its document. A file
does so where no reference that gets a dot stands inside of a tag. -/
theorem same_documents_iff (root : Files.Path) (tree : Files.Tree) (question : Request)
    (populates : (askedOnce root tree false question).phase = .populated) :
    ∃ files, (Session.start root tree).listing = .ok files ∧
      ((askedOnce root tree true question).phase = .populated ∧
          (askedOnce root tree true question).served =
            (askedOnce root tree false question).served ↔
        ∀ file ∈ files, Document.SaysTheSame tree root file) ∧
      ∀ file ∈ files, Document.KeepsTags tree file → Document.SaysTheSame tree root file := by
  obtain ⟨files, entries, listed, made, distinct⟩ := askedOnce_populated.1 populates
  have documents := askedOnce_served question listed made distinct
  have rewritten := entries_rewritten made
  refine ⟨files, listed, ?_, fun file _ => Document.saysTheSame_of_keepsTags root⟩
  refine Iff.trans ?_ rewritten
  constructor
  · rintro ⟨populates', same⟩
    obtain ⟨files', entries', listed', made', distinct'⟩ := askedOnce_populated.1 populates'
    obtain rfl := Except.ok.inj (listed.symm.trans listed')
    rw [askedOnce_served question listed made' distinct', documents] at same
    exact ⟨entries', made', same⟩
  · rintro ⟨entries', made', same⟩
    have ids : entries'.map (·.id) = entries.map (·.id) := by
      have first := congrArg (List.map Prod.fst) same
      rwa [List.map_map, List.map_map] at first
    have distinct' : (entries'.map (·.id)).Nodup := ids ▸ distinct
    refine ⟨askedOnce_populated.2 ⟨files, entries', listed, made', distinct'⟩, ?_⟩
    rw [askedOnce_served question listed made' distinct', documents, same]

/-! ### Two pages -/

/-- Two pages below the root. -/
def pagesOf (a b : String) : Files.Tree where
  nodes := [(["a.html"], .file (Text.encodeUtf8 a)), (["b.html"], .file (Text.encodeUtf8 b))]

theorem listing_pagesOf (a b : String) :
    (Session.start [] (pagesOf a b)).listing = .ok [["a.html"], ["b.html"]] := by
  have kinds : Files.isHidden "a.html" = false ∧ Files.isHidden "b.html" = false ∧
      Files.isDocumentName "a.html" = true ∧ Files.isDocumentName "b.html" = true := by
    decide
  have children : (pagesOf a b).children [] =
      [("a.html", .file (Text.encodeUtf8 a)), ("b.html", .file (Text.encodeUtf8 b))] := rfl
  have searched : Files.searched (pagesOf a b) [] = [[]] := rfl
  have short : ∀ here ∈ Files.searched (pagesOf a b) [], Files.isOverlong ([] ++ here) = false := by
    rw [searched]
    decide
  have found : Files.documentsBelow (pagesOf a b) [] = [["a.html"], ["b.html"]] := by
    simp [Files.documentsBelow, searched, Files.documentsAt, children, Files.documentName?, kinds]
  have ordered : [["a.html"], ["b.html"]].mergeSort Files.isBefore = [["a.html"], ["b.html"]] :=
    List.mergeSort_of_pairwise (by decide)
  have listed := Files.searchDocuments_eq (.ofNodes (pagesOf a b)) rfl rfl short
  simp [Session.listing, Session.start, Files.listDocuments, listed, found, ordered, Except.map]

/-- Two pages populate a registry exactly if their ids are different. -/
theorem pages_populate_iff {a b : String} {rewrites : Bool} {first second : Document}
    (question : Request)
    (firstCompiled : Document.compile (pagesOf a b) [] rewrites ["a.html"] = .ok first)
    (secondCompiled : Document.compile (pagesOf a b) [] rewrites ["b.html"] = .ok second) :
    (askedOnce [] (pagesOf a b) rewrites question).phase = .populated ↔
      Entry.idOf ["a.html"] first ≠ Entry.idOf ["b.html"] second := by
  have top : Files.resolve (pagesOf a b) [] = .ok [] := rfl
  have entryA : (Session.start [] (pagesOf a b)).entryOf (compilation [] rewrites) ["a.html"] =
      .ok ⟨Entry.idOf ["a.html"] first, "a.html", ["a.html"], first⟩ :=
    entryOf_eq_ok.2 ⟨first, firstCompiled, Entry.ofDocument_eq_ok.2 ⟨["a.html"], [], rfl, top, rfl⟩⟩
  have entryB : (Session.start [] (pagesOf a b)).entryOf (compilation [] rewrites) ["b.html"] =
      .ok ⟨Entry.idOf ["b.html"] second, "b.html", ["b.html"], second⟩ :=
    entryOf_eq_ok.2
      ⟨second, secondCompiled, Entry.ofDocument_eq_ok.2 ⟨["b.html"], [], rfl, top, rfl⟩⟩
  rw [askedOnce_populated]
  constructor
  · rintro ⟨files, entries, listed, made, distinct⟩
    obtain rfl := Except.ok.inj ((listing_pagesOf a b).symm.trans listed)
    obtain ⟨one, rest, madeA, later, rfl⟩ := List.forall₂_cons_left_iff.1 made
    obtain ⟨two, none, madeB, last, rfl⟩ := List.forall₂_cons_left_iff.1 later
    obtain rfl := Except.ok.inj (entryA.symm.trans madeA)
    obtain rfl := Except.ok.inj (entryB.symm.trans madeB)
    cases last
    simpa using distinct
  · intro apart
    exact ⟨_, _, listing_pagesOf a b, .cons entryA (.cons entryB .nil), by simpa using apart⟩

def pictureSource : String := "<img src='/static/logo.png'>"

def absoluteIdSource : String := "\x7b% set document_id = '/static' %\x7d"

def relativeIdSource : String := "\x7b% set document_id = './static' %\x7d"

/-- A picture, and a page that gives itself an id. -/
def pictured : Files.Tree := pagesOf pictureSource relativeIdSource

/-- Two pages that give themselves ids, one of them a reference that gets a dot. -/
def clashing : Files.Tree := pagesOf absoluteIdSource relativeIdSource

def statementsWithId (id : String) : List Template.Stmt :=
  [.assign 1 (.name "document_id") (.constant (.text id))]

theorem parsed_absolute : Template.read true absoluteIdSource = .ok (statementsWithId "/static") := by
  have tokens : Template.tokenize true absoluteIdSource =
      Template.settingTokens "document_id" (.text "/static") ++ [⟨1, .finish⟩] := by cbv
  exact Template.read_id tokens

theorem parsed_relative : Template.read true relativeIdSource = .ok (statementsWithId "./static") := by
  have tokens : Template.tokenize true relativeIdSource =
      Template.settingTokens "document_id" (.text "./static") ++ [⟨1, .finish⟩] := by cbv
  exact Template.read_id tokens

theorem unified_sources : Text.unifyNewlines pictureSource = pictureSource ∧
    Text.unifyNewlines absoluteIdSource = absoluteIdSource ∧
    Text.unifyNewlines relativeIdSource = relativeIdSource := by
  decide

theorem rewritten_ids : Markup.rewriteStaticUrls absoluteIdSource = relativeIdSource ∧
    Markup.rewriteStaticUrls relativeIdSource = relativeIdSource := by
  decide

theorem readMetadata_withId {id : String} (nonempty : id ≠ "") :
    Document.readMetadata .ofDocuments (statementsWithId id) = .ok ⟨some id, []⟩ := by
  have assigned : Document.assignments .ofDocuments (statementsWithId id) =
      .ok [("document_id", .text id)] := rfl
  have given : Document.readId (.text id) = .ok (some id) := by
    simp [Document.readId, Value.text?, nonempty]
  rw [Document.readMetadata, assigned, ok_bind]
  change Document.readId (.text id) >>= _ = _
  rw [given]
  rfl

theorem compile_withId {a b name text id : String} {rewrites : Bool} (nonempty : id ≠ "")
    (here : Files.resolve (pagesOf a b) [name] = .ok [name])
    (source : Document.readSource (pagesOf a b) rewrites [name] = .ok ⟨text, none⟩)
    (parsed : Template.read true text = .ok (statementsWithId id)) :
    ∃ d, d.id = some id ∧ Document.compile (pagesOf a b) [] rewrites [name] = .ok d := by
  obtain ⟨template, made⟩ : ∃ t, Template.Compiled.ofStatements .ofDocuments
      (some (Document.templateName [] [name])) (statementsWithId id) = .ok t := ⟨_, rfl⟩
  have top : Files.resolve (pagesOf a b) [] = .ok [] := rfl
  refine ⟨_, ?_, Document.compile_eq_ok.2 ⟨[name], [], _, _, template, _, here, top, source, parsed,
    made, readMetadata_withId nonempty, rfl⟩⟩
  rfl

theorem compile_picture : ∃ d, d.id = none ∧
    Document.compile pictured [] false ["a.html"] = .ok d := by
  have source : Document.readSource pictured false ["a.html"] = .ok ⟨pictureSource, none⟩ :=
    Document.readSource_of_octets rfl unified_sources.1 rfl false
  have tokens : Template.tokenize true pictureSource = [⟨1, .data pictureSource⟩, ⟨1, .finish⟩] := by
    cbv
  have parsed : Template.read true pictureSource = .ok [.output [.data pictureSource]] := by
    rw [Template.read, tokens]
    rfl
  have told : Document.readMetadata .ofDocuments [.output [.data pictureSource]] = .ok ⟨none, []⟩ := rfl
  obtain ⟨template, made⟩ : ∃ t, Template.Compiled.ofStatements .ofDocuments (some "a.html")
      [.output [.data pictureSource]] = .ok t := ⟨_, rfl⟩
  refine ⟨_, ?_, Document.compile_eq_ok.2
    ⟨["a.html"], [], _, _, template, _, rfl, rfl, source, parsed, made, told, rfl⟩⟩
  rfl

/-- The id that gets no dot stays as it is. -/
theorem compile_relative (a : String) (rewrites : Bool) : ∃ d, d.id = some "./static" ∧
    Document.compile (pagesOf a relativeIdSource) [] rewrites ["b.html"] = .ok d := by
  have source : Document.readSource (pagesOf a relativeIdSource) rewrites ["b.html"] =
      .ok ⟨relativeIdSource, none⟩ := by
    rw [Document.readSource_of_octets rfl unified_sources.2.2 rfl, rewritten_ids.2, ite_self]
  exact compile_withId (by decide) rfl source parsed_relative

/-- A page with a picture keeps its tags, and so does one with an id that gets no dot. -/
theorem pictured_same_documents :
    (askedOnce [] pictured false .ensure).phase = .populated ∧
      (askedOnce [] pictured true .ensure).phase = .populated ∧
      (askedOnce [] pictured true .ensure).served = (askedOnce [] pictured false .ensure).served := by
  obtain ⟨first, idA, compiledA⟩ := compile_picture
  obtain ⟨second, idB, compiledB⟩ := compile_relative pictureSource false
  have populates : (askedOnce [] pictured false .ensure).phase = .populated := by
    refine (pages_populate_iff .ensure compiledA compiledB).2 ?_
    have named : Files.stem (Files.nameOf ["a.html"]) = "a" := by decide
    simp [Entry.idOf, idA, idB, named]
  obtain ⟨files, listed, iff, kept⟩ := same_documents_iff [] pictured .ensure populates
  obtain rfl := Except.ok.inj ((listing_pagesOf _ _).symm.trans listed)
  have pictureKept : Document.KeepsTags pictured ["a.html"] := by
    intro path text here reads
    cases here
    have whole : Document.readText pictured ["a.html"] = .ok pictureSource :=
      Document.readText_of_octets rfl unified_sources.1
    obtain rfl := Except.ok.inj (whole.symm.trans reads)
    decide
  have idKept : Document.KeepsTags pictured ["b.html"] := by
    intro path text here reads
    cases here
    have whole : Document.readText pictured ["b.html"] = .ok relativeIdSource :=
      Document.readText_of_octets rfl unified_sources.2.2
    obtain rfl := Except.ok.inj (whole.symm.trans reads)
    decide +kernel
  refine ⟨populates, iff.2 ?_⟩
  intro file member
  rcases List.mem_pair.1 member with rfl | rfl
  · exact kept _ (by simp) pictureKept
  · exact kept _ (by simp) idKept

/-- Two ids become one when references are rewritten, and then no registry is populated. -/
theorem clashing_not_populated :
    (askedOnce [] clashing false .ensure).phase = .populated ∧
      (askedOnce [] clashing true .ensure).phase ≠ .populated := by
  have plain : Document.readSource clashing false ["a.html"] = .ok ⟨absoluteIdSource, none⟩ :=
    Document.readSource_of_octets rfl unified_sources.2.1 rfl false
  have dotted : Document.readSource clashing true ["a.html"] = .ok ⟨relativeIdSource, none⟩ := by
    rw [Document.readSource_of_octets rfl unified_sources.2.1 rfl, if_pos rfl, rewritten_ids.1]
  obtain ⟨first, idA, compiledA⟩ := compile_withId (by decide) rfl plain parsed_absolute
  obtain ⟨first', idA', compiledA'⟩ := compile_withId (by decide) rfl dotted parsed_relative
  obtain ⟨second, idB, compiledB⟩ := compile_relative absoluteIdSource false
  obtain ⟨second', idB', compiledB'⟩ := compile_relative absoluteIdSource true
  constructor
  · refine (pages_populate_iff .ensure compiledA compiledB).2 ?_
    simp [Entry.idOf, idA, idB]
  · intro populated
    refine (pages_populate_iff .ensure compiledA' compiledB').1 populated ?_
    simp [Entry.idOf, idA', idB']

end Session
end DocumentServer
