import DocumentServer.Catalog.Writer
import DocumentServer.Proofs.Document.Compiling
import DocumentServer.Proofs.Files.Folder
import DocumentServer.Proofs.Json.Encoding
import DocumentServer.Proofs.Registry.Lookups
import DocumentServer.Proofs.Registry.Rebuilding
import Mathlib

/-!
What a catalog consists of. Where every id can name a file, each document gets a page of its own in the
folder, and nothing else is written. An id is put into the path of its page as it is, so one with a
slash leads elsewhere.
-/
namespace DocumentServer.Catalog
open Files (FolderAt)

variable {tree made now later : Files.Tree} {templates spot : Files.Path} {output : Files.Place}
  {registry : Registry} {entry first : Entry} {entries pages rest : List Entry}
  {markup id place : String}

/-! ## Where pages are -/

/-- The name of the file that the page of an id is written to. -/
def pageName (id : String) : String := id ++ ".md"

/-- An id that can name a file in the folder of a catalog. -/
structure NamesFile (output : Files.Place) (id : String) : Prop where
  noSlash : '/' ∉ id.toList
  noNul : Files.hasNul id = false
  short : (pageName id).utf8ByteSize ≤ Files.maxNameOctets
  pathShort : (Files.pathText (output.path ++ [pageName id])).utf8ByteSize ≤ Files.maxPathOctets

theorem toList_pageName (id : String) : (pageName id).toList = id.toList ++ ['.', 'm', 'd'] :=
  String.toList_append

theorem pageName_injective : Function.Injective pageName := by
  intro a b same
  have chars := congrArg String.toList same
  rw [toList_pageName, toList_pageName] at chars
  exact String.toList_inj.1 (List.append_cancel_right chars)

theorem pageName_ne (id : String) : pageName id ≠ "" ∧ pageName id ≠ "." ∧ pageName id ≠ ".." := by
  have length : (pageName id).toList.length = id.toList.length + 3 := by
    rw [toList_pageName]
    simp
  have differs : ∀ s : String, s.toList.length < 3 → pageName id ≠ s := by
    rintro s shorter rfl
    omega
  exact ⟨differs _ (by decide), differs _ (by decide), differs _ (by decide)⟩

/-- The page of an id without a slash is in the folder itself. -/
theorem pagePlace_path (noSlash : '/' ∉ id.toList) :
    (pagePlace output id).path = output.path ++ [pageName id] := by
  have plain : '/' ∉ (pageName id).toList := by simpa [toList_pageName] using noSlash
  have relative : Files.isAbsolute (pageName id) = false := by
    rw [Files.isAbsolute, beq_eq_false_iff_ne]
    exact fun starts => plain (List.mem_of_head? starts)
  have part : Files.partsOf (pageName id) = [pageName id] := by
    obtain ⟨some, other, _⟩ := pageName_ne id
    exact Files.partsOf_of_noSlash plain some other
  change (output.under (pageName id)).path = _
  rw [Files.Place.under, relative, if_neg Bool.false_ne_true, part, Files.Place.path, Files.Place.path]
  split
  · rw [List.append_assoc]
  · rfl

namespace NamesFile

theorem fits (names : NamesFile output id) : Files.Fits output.path (pageName id) where
  differs := (pageName_ne id).2.2
  short := names.short
  pathShort := names.pathShort

theorem clean (names : NamesFile output id) (folder : output.path.any Files.hasNul = false) :
    (pagePlace output id).path.any Files.hasNul = false := by
  have page : Files.hasNul (pageName id) = false := by
    simpa [Files.hasNul, toList_pageName] using names.noNul
  rw [pagePlace_path names.noSlash, List.any_append, folder, List.any_cons, page]
  rfl

/-- The folder of a path that can be followed has a path that can be followed. -/
theorem folderShort (names : NamesFile output id) :
    (Files.pathText output.path).utf8ByteSize ≤ Files.maxPathOctets := by
  refine Nat.le_trans ?_ names.pathShort
  rw [Files.pathText, Files.pathText, String.utf8ByteSize_append, String.utf8ByteSize_append]
  refine Nat.add_le_add_left ?_ _
  by_cases top : output.path = []
  · rw [top]
    exact Nat.zero_le _
  · rw [String.intercalate_append_of_ne_nil top (by simp), String.utf8ByteSize_append,
      String.utf8ByteSize_append]
    omega

end NamesFile

/-! ## Writing one page -/

/-- What the page of a document is, with its markup. -/
def IsPage (entry : Entry) (markup : String) (content : Octets) : Prop :=
  ∃ properties, propertiesText entry.document.previewProps = .ok properties ∧
    content = Text.encodeUtf8 (String.intercalate "\n"
      (pageLines entry.id entry.slug properties markup))

theorem exists_propertiesText_eq_ok {props : List (Value × Value)} :
    (∃ properties, propertiesText props = .ok properties) ↔ Json.Encodable (.dict props) := by
  rw [propertiesText, exists_map_eq_ok, Json.exists_ofValue_eq_ok]

theorem pageText_eq {props : List (Value × Value)} {properties slug : String}
    (told : propertiesText props = .ok properties) : pageText id slug props markup =
      .ok (String.intercalate "\n" (pageLines id slug properties markup)) := by
  rw [pageText, told]
  rfl

/-- A document that is in the registry is rendered with its own sample properties. -/
theorem render_known (known : registry.find entry.id = some entry)
    (rendered : entry.document.render now entry.document.previewProps = .ok markup) :
    registry.render now entry.id [] = .ok ⟨markup, entry.document.css⟩ := by
  have own : entry.propertiesFor [] = entry.document.previewProps := rfl
  rw [Registry.render, known]
  change entry.render now [] = _
  rw [Entry.render, own, rendered]

/-- Entries that are still to get their pages in the folder that the path of the output leads to. -/
structure Pending (registry : Registry) (output : Files.Place) (spot : Files.Path)
    (now : Files.Tree) (pages : List Entry) : Prop where
  clean : output.path.any Files.hasNul = false
  folder : pages ≠ [] → FolderAt now output.path spot
  names : ∀ entry ∈ pages, NamesFile output entry.id
  free : ∀ entry ∈ pages, ∀ node, now.node? (spot ++ [pageName entry.id]) = some node →
    node.isFile = true
  known : ∀ entry ∈ pages, registry.find entry.id = some entry
  encodable : ∀ entry ∈ pages, Json.Encodable (.dict entry.document.previewProps)
  distinct : (pages.map (·.id)).Nodup

/-- A page is put into the folder. -/
theorem Pending.writePage (pending : Pending registry output spot now (first :: rest))
    (rendered : first.document.render now first.document.previewProps = .ok markup) :
    ∃ content, IsPage first markup content ∧
      Catalog.writePage registry output now first = .ok ((pagePlace output first.id).text,
        now.put (spot ++ [pageName first.id]) (.file content)) := by
  have names := pending.names first List.mem_cons_self
  obtain ⟨properties, told⟩ :=
    exists_propertiesText_eq_ok.2 (pending.encodable first List.mem_cons_self)
  refine ⟨_, ⟨properties, told, rfl⟩, ?_⟩
  have rendering := render_known (pending.known first List.mem_cons_self) rendered
  have written := (pending.folder (List.cons_ne_nil _ _)).writeFile names.fits
    (pending.free first List.mem_cons_self) (pagePlace_path names.noSlash)
    (names.clean pending.clean)
  rw [Catalog.writePage, rendering]
  simp only [ok_bind, pageText_eq told, Except.mapError, written]
  rfl

/-- The pages of the other entries can still be written then. -/
theorem Pending.tail (pending : Pending registry output spot now (first :: rest)) (content : Octets) :
    Pending registry output spot (now.put (spot ++ [pageName first.id]) (.file content)) rest := by
  have folder := pending.folder (List.cons_ne_nil _ _)
  have free := pending.free first List.mem_cons_self
  have apart : now.node? (spot ++ [pageName first.id]) ≠ some .folder := by
    intro isFolder
    cases free _ isFolder
  have later : ∀ {entry}, entry ∈ rest → entry ∈ first :: rest := List.mem_cons_of_mem first
  refine ⟨pending.clean, fun _ => ?_, fun entry member => pending.names entry (later member), ?_,
    fun entry member => pending.known entry (later member),
    fun entry member => pending.encodable entry (later member),
    (List.nodup_cons.1 pending.distinct).2⟩
  · exact folder.kept (Files.Tree.keptBy_put folder.isOpen free _)
  · intro entry member node there
    rw [(Files.Tree.put_open folder.isOpen apart _).1] at there
    split at there
    · cases there
      rfl
    · exact pending.free entry (later member) node there

/-! ## Writing all pages -/

/-- The markup that a document has when its page is due, after the pages before it were written. -/
def Due (registry : Registry) (output : Files.Place) (now : Files.Tree) (pages : List Entry)
    (entry : Entry) (markup : String) : Prop :=
  ∃ before after, pages = before ++ entry :: after ∧
    entry.document.render (writePages registry output before now).1 entry.document.previewProps =
      .ok markup

theorem writePages_cons (written : writePage registry output now first = .ok (place, later))
    (rest : List Entry) : writePages registry output (first :: rest) now =
      ((writePages registry output rest later).1,
        (writePages registry output rest later).2.map (place :: ·)) := by
  rw [writePages, written]

/-- The first page is due at once, and the others after it. -/
theorem Due.cases (due : Due registry output now (first :: rest) entry markup) :
    entry = first ∧ first.document.render now first.document.previewProps = .ok markup ∨
      entry ∈ rest ∧ ∀ place later, writePage registry output now first = .ok (place, later) →
        Due registry output later rest entry markup := by
  obtain ⟨before, after, split, rendered⟩ := due
  cases before with
  | nil =>
      cases split
      exact .inl ⟨rfl, rendered⟩
  | cons other before =>
      cases split
      refine .inr ⟨by simp, fun place later written => ⟨before, after, rfl, ?_⟩⟩
      rwa [writePages_cons written] at rendered

/-- All pages have been written, and nothing else has changed. -/
structure Written (registry : Registry) (output : Files.Place) (spot : Files.Path)
    (now : Files.Tree) (pages : List Entry) : Prop where
  told : (writePages registry output pages now).2 =
    .ok (pages.map fun entry => (pagePlace output entry.id).text)
  folder : pages ≠ [] → FolderAt (writePages registry output pages now).1 output.path spot
  others : ∀ path, (∀ entry ∈ pages, path ≠ spot ++ [pageName entry.id]) →
    (writePages registry output pages now).1.node? path = now.node? path
  isPage : ∀ entry markup, Due registry output now pages entry markup → ∃ content,
    IsPage entry markup content ∧
      (writePages registry output pages now).1.node? (spot ++ [pageName entry.id]) =
        some (.file content)

theorem Written.nil : Written registry output spot now [] := by
  refine ⟨rfl, fun some => absurd rfl some, fun _ _ => rfl, ?_⟩
  rintro entry markup ⟨before, after, split, _⟩
  cases before <;> cases split

theorem Pending.fresh (pending : Pending registry output spot now (first :: rest)) :
    first.id ∉ rest.map (·.id) := (List.nodup_cons.1 pending.distinct).1

theorem Pending.absent (pending : Pending registry output spot now (first :: rest)) :
    first ∉ rest := fun member => pending.fresh (List.mem_map_of_mem member)

/-- With the first page in the folder, the others do not touch it. -/
theorem Pending.written_cons (pending : Pending registry output spot now (first :: rest))
    (rendered : first.document.render now first.document.previewProps = .ok markup)
    {content : Octets} (isPage : IsPage first markup content)
    (wrote : Catalog.writePage registry output now first = .ok ((pagePlace output first.id).text,
      now.put (spot ++ [pageName first.id]) (.file content)))
    (written : Written registry output spot
      (now.put (spot ++ [pageName first.id]) (.file content)) rest) :
    Written registry output spot now (first :: rest) := by
  have folder := pending.folder (List.cons_ne_nil _ _)
  have free := pending.free first List.mem_cons_self
  have apart : now.node? (spot ++ [pageName first.id]) ≠ some .folder := by
    intro isFolder
    cases free _ isFolder
  obtain ⟨put, _⟩ := Files.Tree.put_open folder.isOpen apart (.file content)
  have keptNow := folder.kept (Files.Tree.keptBy_put folder.isOpen free (.file content))
  have final := writePages_cons wrote rest
  generalize now.put (spot ++ [pageName first.id]) (.file content) = later at *
  have kept : FolderAt (writePages registry output rest later).1 output.path spot := by
    cases rest with
    | nil => exact keptNow
    | cons other rest => exact written.folder (List.cons_ne_nil _ _)
  refine ⟨?_, fun _ => by rwa [final], ?_, ?_⟩
  · rw [final, written.told]
    rfl
  · intro path other
    obtain ⟨apartFirst, apartRest⟩ := List.forall_mem_cons.1 other
    rw [final, written.others path apartRest, put, if_neg apartFirst]
  · intro entry markupToo due
    rw [final]
    rcases due.cases with ⟨rfl, again⟩ | ⟨_, later⟩
    · obtain rfl := Except.ok.inj (rendered.symm.trans again)
      refine ⟨content, isPage, ?_⟩
      rw [written.others, put, if_pos rfl]
      intro other member same
      have names := pageName_injective (List.append_singleton_inj.1 same).2
      exact pending.fresh (names ▸ List.mem_map_of_mem member)
    · exact written.isPage entry markupToo (later _ _ wrote)

/-- Pages are all written if each document can be rendered when its page is due. -/
theorem Pending.written (pending : Pending registry output spot now pages)
    (renders : ∀ entry ∈ pages, ∃ markup, Due registry output now pages entry markup) :
    Written registry output spot now pages := by
  -- Each page is rendered with those before it in the tree, so the tree changes in the induction.
  induction pages generalizing now with
  | nil => exact .nil
  | cons first rest ih =>
      obtain ⟨markup, due⟩ := renders first List.mem_cons_self
      obtain ⟨_, rendered⟩ := due.cases.resolve_right fun later => pending.absent later.1
      obtain ⟨content, isPage, wrote⟩ := pending.writePage rendered
      refine pending.written_cons rendered isPage wrote (ih (pending.tail content) ?_)
      intro entry member
      obtain ⟨markup, due⟩ := renders entry (List.mem_cons_of_mem _ member)
      rcases due.cases with ⟨rfl, _⟩ | ⟨_, later⟩
      · exact absurd member pending.absent
      · exact ⟨markup, later _ _ wrote⟩

/-! ## Catalogs -/

/-- What a registry holds that was asked for its entries. -/
theorem find_of_asked {session : Session}
    (asked : (Session.start templates made).ask (.ofDocuments templates false) .entries =
      (.done (.entries entries), session)) :
    (∀ entry ∈ entries, session.registry.find entry.id = some entry) ∧
      (entries.map (·.id)).Nodup := by
  have idle : (Session.start templates made).Idle := by
    intro g p found
    cases found
  have looked := (Session.ask_done (Session.Sound.start templates made) idle
    (congrArg Prod.fst asked)).2
  obtain ⟨events, ran⟩ := Session.ask_run (.ofDocuments templates false)
    (Session.start templates made) .entries
  rw [asked] at ran
  have same : session = (Session.start templates made).run events := ran
  have live : session.registry.index.entries = entries := by
    change ((Session.start templates made).ask (.ofDocuments templates false) .entries).2.lookUp _ = _
      at looked
    rw [asked] at looked
    exact Reply.entries.inj (Outcome.done.inj looked)
  obtain ⟨whole, distinct⟩ := Session.live_eq_ofEntries templates made events
  rw [← same, live] at whole distinct
  refine ⟨fun entry member => ?_, distinct⟩
  rw [Registry.find, whole]
  refine Association.get?_of_mem ?_ ((Index.byId_ofEntries _ _).2 ⟨member, rfl⟩)
  rwa [Index.keys_byId]

/-- A catalog is written if each id can name a file, nothing but a file is where a page goes, sample
properties can be written as JSON, and each document can be rendered when its page is due. Then
there is one page for each document, in a file of its own in the folder that was made, and it holds
the id, the slug, the sample properties and the trimmed markup of the document. Apart from the pages
and new folders, all files are as they were. -/
theorem write_pages (prepared : Files.makeFolders tree output = .ok made) {session : Session}
    (asked : (Session.start templates made).ask (.ofDocuments templates false) .entries =
      (.done (.entries entries), session))
    (names : ∀ entry ∈ entries, NamesFile output entry.id)
    (free : ∀ entry ∈ entries, ∀ node,
      made.node? (Files.leadsTo made output.path ++ [pageName entry.id]) = some node →
        node.isFile = true)
    (encodable : ∀ entry ∈ entries, Json.Encodable (.dict entry.document.previewProps))
    (renders : ∀ entry ∈ entries, ∃ markup,
      Due session.registry output made (Entry.sortById entries) entry markup) :
    let written := write tree templates output
    let place := fun entry : Entry => pagePlace output entry.id
    written.2 = .ok ((Entry.sortById entries).map fun entry => (place entry).text) ∧
    (Entry.sortById entries).Perm entries ∧
    (∀ entry ∈ entries, (place entry).path = output.path ++ [pageName entry.id]) ∧
    (entries.map fun entry => (place entry).path).Nodup ∧
    (∀ entry ∈ entries, ∀ markup,
      Due session.registry output made (Entry.sortById entries) entry markup →
        ∃ content, IsPage entry markup content ∧
          Files.readOctets written.1 (place entry).path = .ok content) ∧
    (∀ path, (∀ entry ∈ entries, path ≠ Files.leadsTo made output.path ++ [pageName entry.id]) →
      written.1.node? path = tree.node? path ∨
        tree.node? path = none ∧ written.1.node? path = some .folder) := by
  intro written place
  obtain ⟨clean, adds, folder⟩ := Files.makeFolders_eq_ok prepared
  obtain ⟨known, distinct⟩ := find_of_asked asked
  have perm : (Entry.sortById entries).Perm entries := List.mergeSort_perm ..
  have whole : written = writePages session.registry output (Entry.sortById entries) made := by
    simp only [written, write, prepared, asked]
  have pending : Pending session.registry output (Files.leadsTo made output.path) made
      (Entry.sortById entries) := by
    have all : ∀ {p : Entry → Prop}, (∀ entry ∈ entries, p entry) →
        ∀ entry ∈ Entry.sortById entries, p entry :=
      fun each entry member => each entry (perm.mem_iff.1 member)
    refine ⟨clean, fun some => ?_, all names, all free, all known, all encodable,
      (perm.map _).nodup_iff.2 distinct⟩
    obtain ⟨entry, member⟩ := List.exists_mem_of_ne_nil _ some
    obtain ⟨spot, there⟩ := folder (all names entry member).folderShort
    rwa [Files.leadsTo_of_leads there.leads]
  have all := pending.written fun entry member => renders entry (perm.mem_iff.1 member)
  refine ⟨?_, perm, fun entry member => pagePlace_path (names entry member).noSlash, ?_, ?_, ?_⟩
  · rw [whole, all.told]
  · have paths : (entries.map fun entry => (place entry).path) =
        (entries.map (·.id)).map fun id => output.path ++ [pageName id] := by
      rw [List.map_map]
      exact List.map_congr_left fun entry member => pagePlace_path (names entry member).noSlash
    rw [paths]
    refine distinct.map fun a b same => pageName_injective ?_
    exact (List.append_singleton_inj.1 same).2
  · intro entry member markup due
    obtain ⟨content, isPage, there⟩ := all.isPage entry markup due
    refine ⟨content, isPage, ?_⟩
    have folderNow := all.folder (List.ne_nil_of_mem (perm.mem_iff.2 member))
    have noLink : ∀ target, (writePages session.registry output (Entry.sortById entries) made).1.node?
        (Files.leadsTo made output.path ++ [pageName entry.id]) ≠ some (.link target) := by
      simp [there]
    have seen := (folderNow.lookAt_child (names entry member).fits noLink).1
    rw [Files.readOctets, whole, pagePlace_path (names entry member).noSlash, seen, there]
    rfl
  · intro path other
    rw [whole, all.others path fun entry member => other entry (perm.mem_iff.1 member)]
    exact adds path

/-! ### A catalog of one page, and one that is not written -/

def nestedSource : String := "\x7b% set document_id = 'a/b' %\x7d"

def nestedStatements : List Template.Stmt :=
  [.assign 1 (.name "document_id") (.constant (.text "a/b"))]

/-- Two folders with one document each: one that is named by its file, and one whose id has a slash. -/
def shelves : Files.Tree where
  nodes := [(["plain"], .folder), (["plain", "a.html"], .file []), (["nested"], .folder),
    (["nested", "a.html"], .file (Text.encodeUtf8 nestedSource))]

def catalogPlace : Files.Place := .ofText [] "/catalog"

def shelvesWithCatalog : Files.Tree where
  nodes := shelves.nodes ++ [(["catalog"], .folder)]

/-- The entry of a document that consists of statements. -/
def entryOf (folder id : String) (declared : Option String) (statements : List Template.Stmt) :
    Entry where
  id := id
  slug := "a.html"
  path := [folder, "a.html"]
  document :=
    { environment := .ofDocuments
      template := { name := some "a.html", statements, blocks := [], mayExtend := false }
      path := [folder, "a.html"], root := [folder], css := none, id := declared, previewProps := [] }

def plainEntry : Entry := entryOf "plain" "a" none []

def nestedEntry : Entry := entryOf "nested" "a/b" (some "a/b") nestedStatements

theorem compile_plainEntry :
    Document.compile shelvesWithCatalog ["plain"] false ["plain", "a.html"] =
      .ok plainEntry.document := by
  have source : Document.readSource shelvesWithCatalog false ["plain", "a.html"] = .ok ⟨"", none⟩ :=
    Document.readSource_of_octets rfl rfl rfl false
  have parsed : Template.read true "" = .ok [] := rfl
  exact Document.compile_eq_ok.2
    ⟨["plain", "a.html"], ["plain"], _, [], _, ⟨none, []⟩, rfl, rfl, source, parsed, rfl, rfl, rfl⟩

theorem compile_nestedEntry :
    Document.compile shelvesWithCatalog ["nested"] false ["nested", "a.html"] =
      .ok nestedEntry.document := by
  have source : Document.readSource shelvesWithCatalog false ["nested", "a.html"] =
      .ok ⟨nestedSource, none⟩ := Document.readSource_of_octets rfl rfl rfl false
  have tokens : Template.tokenize true nestedSource =
      Template.settingTokens "document_id" (.text "a/b") ++ [⟨1, .finish⟩] := by cbv
  have parsed : Template.read true nestedSource = .ok nestedStatements := Template.read_id tokens
  exact Document.compile_eq_ok.2
    ⟨["nested", "a.html"], ["nested"], _, nestedStatements, _, ⟨some "a/b", []⟩, rfl, rfl, source,
      parsed, rfl, rfl, rfl⟩

theorem makeFolders_shelves : Files.makeFolders shelves catalogPlace = .ok shelvesWithCatalog := rfl

/-- A registry of one file answers with its entry. -/
theorem asked_single {file : Files.Path} {document : Document}
    (listed : (Session.start templates tree).listing = .ok [file])
    (compiled : Document.compile tree templates false file = .ok document)
    (named : Entry.ofDocument tree templates file document = .ok entry) :
    ∃ session, (Session.start templates tree).ask (.ofDocuments templates false) .entries =
      (.done (.entries [entry]), session) := by
  have idle : (Session.start templates tree).Idle := by
    intro g p found
    cases found
  have needs : (Request.entries = .refresh ∨
      (Session.start templates tree).registry.phase ≠ .populated) := .inr nofun
  have rebuilt : (Session.start templates tree).rebuilt 1
      (fun tree => Document.compile tree templates false) = .ok (.ofEntries 1 [entry]) := by
    have there : (Session.start templates tree).tree = tree := rfl
    have root : (Session.start templates tree).root = templates := rfl
    simp only [Session.rebuilt, listed, Session.gather, List.foldlM_cons, List.foldlM_nil,
      Session.collect, there, root, compiled, ok_bind, named, Except.mapError]
    rfl
  obtain ⟨_, _, _, registry, told⟩ :=
    Session.ask_made (Session.Sound.start templates tree) idle needs rebuilt
  refine ⟨_, Prod.fst_eq_iff.1 (told.trans ?_)⟩
  rw [Session.lookUp, registry]
  exact congrArg (Outcome.done ∘ Reply.entries) (Index.entries_ofEntries 1 [entry])

theorem listing_shelf {folder : String} (known : folder = "plain" ∨ folder = "nested") :
    (Session.start [folder] shelvesWithCatalog).listing = .ok [[folder, "a.html"]] := by
  have isFolder : Files.isFolderAt shelvesWithCatalog [folder] = .ok true := by
    rcases known with rfl | rfl <;> rfl
  have place : Files.resolve shelvesWithCatalog [folder] = .ok [folder] := by
    rcases known with rfl | rfl <;> rfl
  have short : ∀ here ∈ Files.searched shelvesWithCatalog [folder],
      Files.isOverlong ([folder] ++ here) = false := by
    rcases known with rfl | rfl <;> decide
  have found : Files.documentsBelow shelvesWithCatalog [folder] = [["a.html"]] := by
    rcases known with rfl | rfl <;> rfl
  have listed := Files.searchDocuments_eq (.ofNodes shelvesWithCatalog) isFolder place short
  simp [Session.listing, Session.start, Files.listDocuments, listed, found, Except.map]

theorem asked_plainEntry : ∃ session, (Session.start ["plain"] shelvesWithCatalog).ask
    (.ofDocuments ["plain"] false) .entries = (.done (.entries [plainEntry]), session) :=
  asked_single (listing_shelf (.inl rfl)) compile_plainEntry rfl

theorem asked_nestedEntry : ∃ session, (Session.start ["nested"] shelvesWithCatalog).ask
    (.ofDocuments ["nested"] false) .entries = (.done (.entries [nestedEntry]), session) :=
  asked_single (listing_shelf (.inr rfl)) compile_nestedEntry rfl

theorem encodable_nothing : Json.Encodable (.dict []) := ⟨Json.fitKeys_of_texts nofun, trivial⟩

theorem plainEntry_renders : plainEntry.document.render shelvesWithCatalog
    plainEntry.document.previewProps = .ok "" :=
  Document.render_blank rfl rfl shelvesWithCatalog

theorem nestedEntry_renders : nestedEntry.document.render shelvesWithCatalog
    nestedEntry.document.previewProps = .ok "" := by cbv

/-- The page of the document that is named by its file. -/
theorem plainPage_written :
    (write shelves ["plain"] catalogPlace).2 = .ok ["/catalog/a.md"] ∧
      ∃ content, IsPage plainEntry "" content ∧
        Files.readOctets (write shelves ["plain"] catalogPlace).1 ["catalog", "a.md"] =
          .ok content := by
  obtain ⟨session, asked⟩ := asked_plainEntry
  have alone : Entry.sortById [plainEntry] = [plainEntry] := List.mergeSort_singleton ..
  have due : Due session.registry catalogPlace shelvesWithCatalog (Entry.sortById [plainEntry])
      plainEntry "" := ⟨[], [], alone, plainEntry_renders⟩
  have free : ∀ node, shelvesWithCatalog.node?
      (Files.leadsTo shelvesWithCatalog catalogPlace.path ++ [pageName "a"]) = some node →
        node.isFile = true := by
    have nothing : shelvesWithCatalog.node?
        (Files.leadsTo shelvesWithCatalog catalogPlace.path ++ [pageName "a"]) = none := rfl
    simp [nothing]
  have names : NamesFile catalogPlace "a" := ⟨by decide, by decide, by decide, by decide⟩
  obtain ⟨told, _, places, _, isPage, _⟩ := write_pages makeFolders_shelves asked
    (List.forall_mem_singleton.2 names) (List.forall_mem_singleton.2 free)
    (List.forall_mem_singleton.2 encodable_nothing) (List.forall_mem_singleton.2 ⟨"", due⟩)
  rw [alone] at told
  obtain ⟨content, holds, there⟩ := isPage plainEntry (List.mem_singleton_self _) "" due
  rw [places plainEntry (List.mem_singleton_self _)] at there
  exact ⟨told, content, holds, there⟩

/-- A page that would be in a folder of its own is not written. -/
theorem nestedPage_lost :
    Files.makeFolders shelves catalogPlace = .ok shelvesWithCatalog ∧
    (∃ session, (Session.start ["nested"] shelvesWithCatalog).ask
      (.ofDocuments ["nested"] false) .entries = (.done (.entries [nestedEntry]), session)) ∧
    nestedEntry.id = "a/b" ∧
    nestedEntry.document.render shelvesWithCatalog nestedEntry.document.previewProps = .ok "" ∧
    write shelves ["nested"] catalogPlace = (shelvesWithCatalog, .error (.fault
      ⟨.fileMissing, "[Errno 2] No such file or directory: '/catalog/a/b.md'"⟩)) := by
  refine ⟨makeFolders_shelves, asked_nestedEntry, rfl, nestedEntry_renders, ?_⟩
  obtain ⟨session, asked⟩ := asked_nestedEntry
  have alone : Entry.sortById [nestedEntry] = [nestedEntry] := List.mergeSort_singleton ..
  have known := (find_of_asked asked).1 nestedEntry (List.mem_singleton_self _)
  have lost : writePage session.registry catalogPlace shelvesWithCatalog nestedEntry = .error (.fault
      ⟨.fileMissing, "[Errno 2] No such file or directory: '/catalog/a/b.md'"⟩) := by
    have refused : ∀ content, Files.writeFile shelvesWithCatalog
        (pagePlace catalogPlace nestedEntry.id) content =
          .error ⟨.fileMissing, "[Errno 2] No such file or directory: '/catalog/a/b.md'"⟩ := fun _ => rfl
    obtain ⟨_, told⟩ : ∃ properties, propertiesText nestedEntry.document.previewProps =
        .ok properties := exists_propertiesText_eq_ok.2 encodable_nothing
    rw [writePage, render_known known nestedEntry_renders]
    simp only [ok_bind, pageText_eq told, Except.mapError, refused]
    rfl
  simp only [write, makeFolders_shelves, asked, alone, writePages, lost]

end DocumentServer.Catalog
