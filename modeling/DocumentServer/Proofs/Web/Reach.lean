import DocumentServer.Proofs.Document.Compiling
import DocumentServer.Proofs.Registry.Lookups
import DocumentServer.Proofs.Registry.Rebuilding
import DocumentServer.Proofs.Web.Percent
import DocumentServer.Proofs.Web.Rendering

/-!
Which documents a client can ask for. Those that are listed are all in the registry, under ids that
are not empty; but a route takes one part of a path for an id, so that none leads to an id with a slash.
-/
namespace DocumentServer

namespace Session

theorem live_id_ne_empty (root : Files.Path) (tree : Files.Tree) (events : List Event)
    {entry : Entry} (live : entry ∈ ((Session.start root tree).run events).registry.index.entries) :
    entry.id ≠ "" := by
  rcases Nat.eq_zero_or_pos
    ((Session.start root tree).run events).registry.index.generation with none | positive
  · rw [index_of_generation_zero root tree events none] at live
    cases live
  · obtain ⟨files, ⟨before, e, after, _, _, _, listed⟩, gathered⟩ :=
      (traced_run root tree events).live positive
    obtain ⟨found, names, rfl⟩ := listing_eq_ok listed
    obtain ⟨length, collected⟩ := List.forall₂_iff_get.1 gathered.collected
    obtain ⟨i, bound, rfl⟩ := List.getElem_of_mem live
    obtain ⟨_, _, _, _, document, _, _, made⟩ := collected i (by omega) bound
    refine Entry.id_ne_empty ?_ made
    rw [List.get_eq_getElem, List.getElem_map]
    exact Files.stem_of_listed names (List.getElem_mem _)

end Session

namespace Web

open Endpoint in
/-- A path of a document leads to it exactly if its id is one part of a path. -/
theorem Endpoint.ofPath?_documentPath {id : String} (nonempty : id ≠ "") :
    ofPath? ("/api/documents/" ++ id) =
      if '/' ∈ id.toList then none else some (.render id) := by
  have path : ("/api/documents/" ++ id).toList = "/api/documents/".toList ++ id.toList :=
    String.toList_append
  have unknown : fixed.lookup (.ofList (dropLineFeed ("/api/documents/" ++ id).toList)) = none := by
    have someChars : id.toList ≠ [] := by simpa using nonempty
    rw [path, dropLineFeed_append _ someChars]
    exact lookup_fixed_append (by decide) _
  have noStatic : staticFile? ("/api/documents/" ++ id).toList = none := by
    rw [path]
    rfl
  have noDownload : download? ("/api/documents/" ++ id).toList = none := by
    rw [path]
    rfl
  have render : render? ("/api/documents/" ++ id).toList =
      if '/' ∈ id.toList then none else some (.render id) := by
    rw [path, render?, Text.dropStart?_append, Option.bind_some, isSegment]
    by_cases inside : '/' ∈ id.toList <;> simp [inside, nonempty]
  simp only [ofPath?, unknown, noStatic, noDownload, render]
  split <;> rfl

/-- No request leads to a document whose id has a slash. -/
theorem Request.onePart_of_render {r : Request} {id : String} (nonempty : id ≠ "")
    (rendered : r.route = .endpoint (.render id)) : '/' ∉ id.toList := by
  intro inside
  obtain ⟨_, found⟩ := Request.route_eq_endpoint.1 rendered
  have path : r.path = "/api/documents/" ++ id := by
    rcases Endpoint.ofPath?_cases found with ⟨start, known, _⟩ | ⟨_, _, same, _⟩ |
      ⟨chars, same, path⟩ | ⟨_, same, _⟩
    · simp [Endpoint.fixed] at known
    · cases same
    · have named : id.toList = chars := by rw [Endpoint.render.inj same, String.toList_ofList]
      rw [← String.toList_inj, String.toList_append, path, named]
    · cases same
  rw [path, Endpoint.ofPath?_documentPath nonempty, if_pos inside] at found
  cases found

/-! ## Runs of a server -/

namespace Server

variable {s first : Server} {o : Occasion} {r : Request}

/-- What the session of a server has gone through since its start, with no rebuild under way. -/
structure Settled (root : Files.Path) (tree : Files.Tree) (s : Server) : Prop where
  ran : ∃ events, s.session = (Session.start root tree).run events
  idle : s.session.Idle

variable {root : Files.Path} {tree : Files.Tree}

theorem Settled.sound (settled : s.Settled root tree) : s.session.Sound := by
  obtain ⟨events, same⟩ := settled.ran
  rw [same]
  exact Session.sound_run root tree events

theorem Settled.consult (settled : s.Settled root tree) (question : DocumentServer.Request) :
    (s.consult question).2.Settled root tree := by
  obtain ⟨events, same⟩ := settled.ran
  obtain ⟨more, asked⟩ := Session.ask_run s.compiler s.session question
  refine ⟨⟨events ++ more, ?_⟩, settled.idle.ask settled.sound question⟩
  rw [Session.run_append, ← same]
  exact asked

theorem Settled.of_session {t : Server} (settled : s.Settled root tree)
    (same : t.session = s.session) : t.Settled root tree := by
  refine ⟨?_, ?_⟩
  · rw [same]
    exact settled.ran
  · rw [same]
    exact settled.idle

theorem session_answerList (s : Server) (question : DocumentServer.Request) :
    (s.answerList question).server.session = (s.consult question).2.session := by
  unfold answerList
  generalize s.consult question = consulted
  obtain ⟨outcome, after⟩ := consulted
  rcases outcome with _ | failure | reply
  · rfl
  · rfl
  · cases reply <;> rfl

theorem session_deliver (s : Server) (o : Occasion) (r : Request) (print : Print)
    (format : AnswerFormat) : (s.deliver o r print format).server.session = s.session := by
  cases format with
  | link =>
      simp only [deliver, issueLink]
      split <;> rfl
  | _ => rfl

theorem Ends.session {id : String} {x : Exchange} (ends : Ends s o r id x) :
    x.server.session = s.session ∨
      ∃ question, x.server.session = (s.consult question).2.session := by
  cases ends with
  | refused asks => exact .inl rfl
  | @unrendered wanted outcome after asks consulted =>
      refine .inr ⟨.render id wanted.props, ?_⟩
      rw [(Exchange.failed_server after outcome).1, consulted]
  | @unprinted wanted rendering after failure renders printed =>
      exact .inr ⟨.render id wanted.props, by rw [renders.rendered]⟩
  | @delivered wanted rendering after payload renders printed =>
      exact .inr ⟨.render id wanted.props, by rw [session_deliver, renders.rendered]⟩

/-- A request asks the registry one question at most. -/
theorem session_answer (s : Server) (o : Occasion) (r : Request) :
    (s.answer o r).server.session = s.session ∨
      ∃ question, (s.answer o r).server.session = (s.consult question).2.session := by
  rcases answer_cases s o r with ⟨e, _, served⟩ | ⟨_, response, told⟩
  · rw [served]
    cases e with
    | documents => exact .inr ⟨_, session_answerList ..⟩
    | refresh => exact .inr ⟨_, session_answerList ..⟩
    | render id => exact (ends_answerRender s o r id).session
    | _ => exact .inl (serve_unguarded rfl).1
  · rw [told]
    exact .inl rfl

theorem Settled.turn (settled : s.Settled root tree) (t : Turn) : (s.turn t).Settled root tree := by
  cases t with
  | change now =>
      obtain ⟨events, same⟩ := settled.ran
      refine ⟨⟨events ++ [.change now], ?_⟩, settled.idle⟩
      rw [Session.run_concat, ← same]
      rfl
  | request o r =>
      rcases session_answer s o r with same | ⟨question, same⟩
      · exact settled.of_session same
      · exact (settled.consult question).of_session same

theorem settled_run (starts : first.session = .start root tree) (past : List Turn) :
    (first.run past).Settled root tree := by
  induction past using List.reverseRecOn with
  | nil =>
      refine ⟨⟨[], starts⟩, ?_⟩
      intro g p found
      rw [run, List.foldl_nil, starts] at found
      cases found
  | append_singleton past t ih =>
      rw [run_concat]
      exact ih.turn t

/-! ## What is listed -/

/-- A response is a listing of documents with an id among theirs. -/
def Lists (response : Response) (id : String) : Prop :=
  ∃ documents slug, response = .ofJson 200 (.object [("documents", .array documents)]) ∧
    .object [("id", .text id), ("slug", .text slug)] ∈ documents

theorem lists_documentList {entries : List Entry} {id : String} :
    Lists (.ofJson 200 (documentList entries)) id ↔ ∃ entry ∈ entries, entry.id = id := by
  constructor
  · rintro ⟨documents, slug, same, listed⟩
    simp only [documentList, Response.ofJson, Response.mk.injEq, Body.json.injEq, Json.object.injEq,
      List.cons.injEq, Prod.mk.injEq, Json.array.injEq, and_true, true_and] at same
    subst same
    obtain ⟨entry, member, same⟩ := List.mem_map.1 listed
    simp only [Json.object.injEq, List.cons.injEq, Prod.mk.injEq, Json.text.injEq, and_true,
      true_and] at same
    exact ⟨entry, List.mem_mergeSort.1 member, same.1⟩
  · rintro ⟨entry, member, rfl⟩
    exact ⟨_, entry.slug, rfl, List.mem_map.2 ⟨entry, List.mem_mergeSort.2 member, rfl⟩⟩

theorem not_lists_of_refuses {response : Response} {id : String} (refuses : response.status ≠ 200) :
    ¬Lists response id := by
  rintro ⟨documents, slug, rfl, _⟩
  exact refuses rfl

/-- Only a listing of what a consulted registry holds is a listing. -/
theorem entries_of_lists {id : String} {question : DocumentServer.Request}
    (lists : Lists (s.answerList question).response id) :
    ∃ entries, (∃ entry ∈ entries, entry.id = id) ∧
      ((s.consult question).1 = .done (.entries entries) ∨
        ∃ index : Index, entries = index.entries ∧
          (s.consult question).1 = .done (.refreshed index)) := by
  unfold answerList at lists
  generalize s.consult question = consulted at lists ⊢
  obtain ⟨outcome, after⟩ := consulted
  have failed : ∀ outcome, ¬Lists (Exchange.failed after outcome).response id := fun outcome =>
    not_lists_of_refuses (Exchange.failed_refuses after outcome)
  rcases outcome with _ | failure | reply
  · exact absurd lists (failed _)
  · exact absurd lists (failed _)
  · cases reply with
    | entries entries => exact ⟨entries, lists_documentList.1 lists, .inl rfl⟩
    | refreshed index => exact ⟨_, lists_documentList.1 lists, .inr ⟨index, rfl, rfl⟩⟩
    | _ => exact absurd lists (failed _)

theorem response_answerList {entries : List Entry} {question : DocumentServer.Request}
    (told : (s.consult question).1 = .done (.entries entries)) :
    (s.answerList question).response = .ofJson 200 (documentList entries) := by
  unfold answerList
  generalize s.consult question = consulted at told ⊢
  obtain ⟨outcome, after⟩ := consulted
  dsimp only at told
  subst told
  rfl

/-- What is listed is in the registry. -/
theorem Settled.listed {id : String} (settled : s.Settled root tree)
    (leads : r.route = .endpoint .documents) (lists : Lists (s.answer o r).response id) :
    let after := (s.answer o r).server
    after.Settled root tree ∧ after.session.registry.phase = .populated ∧
      ∃ entry ∈ after.session.registry.index.entries, entry.id = id := by
  have turned : (s.turn (.request o r)).Settled root tree := settled.turn _
  rw [Server.turn] at turned
  rcases answer_eq s o r with ⟨allowed, answered⟩ | ⟨_, response, refuses, told⟩
  · rw [dispatch, leads] at answered
    have served : s.answer o r = s.answerList .entries := answered
    rw [served] at lists turned ⊢
    obtain ⟨entries, member, told⟩ := entries_of_lists lists
    have kept : ∀ reply, (s.consult .entries).1 = .done reply →
        (s.answerList .entries).server.session.registry.phase = .populated ∧
        .entries (s.answerList .entries).server.session.registry.index.entries = reply := by
      intro reply done
      rw [session_answerList]
      have looked := Session.ask_done settled.sound settled.idle done
      exact ⟨looked.1, Outcome.done.inj looked.2⟩
    rcases told with done | ⟨index, _, done⟩
    · obtain ⟨ready, same⟩ := kept _ done
      obtain rfl := Reply.entries.inj same
      exact ⟨turned, ready, member⟩
    · cases (kept _ done).2
  · rw [told] at lists
    exact absurd lists (not_lists_of_refuses refuses)

/-- What a populated registry holds is rendered when its id is asked for. -/
theorem Settled.rendered (settled : s.Settled root tree)
    (ready : s.session.registry.phase = .populated) {entry : Entry}
    (live : entry ∈ s.session.registry.index.entries) (props : List (Value × Value)) :
    (s.consult (.render entry.id props)).1 =
      .ofExcept ((entry.render s.tree props).map Reply.rendered) := by
  obtain ⟨events, same⟩ := settled.ran
  have filled := Session.live_eq_ofEntries root tree events
  rw [← same] at filled
  obtain ⟨whole, distinct⟩ := filled
  have found : s.session.registry.find entry.id = some entry := by
    rw [Registry.find, whole]
    refine Association.get?_of_mem ?_ ((Index.byId_ofEntries _ _).2 ⟨live, rfl⟩)
    rwa [Index.keys_byId]
  have reads : DocumentServer.Request.render entry.id props ≠ .refresh := by
    intro same
    cases same
  have asked := (Session.ask_populated settled.idle s.compiler reads ready).1
  rw [Server.consult]
  dsimp only
  rw [asked, Session.lookUp, Registry.render, found]
  rfl

/-- A listed document can be asked for under its id exactly if the id has no slash. Then the request
gets to it, and the registry renders it. No request at all gets to a document whose id has a slash. -/
theorem listed_reachable_iff (root : Files.Path) (tree : Files.Tree) (first : Server)
    (starts : first.session = .start root tree) (past : List Turn) (o : Occasion) (g : Request)
    (leads : g.route = .endpoint .documents) (id : String)
    (lists : Lists ((first.run past).answer o g).response id) :
    let s := ((first.run past).answer o g).server
    (∀ r : Request, r.route = .endpoint (.render id) → '/' ∉ id.toList) ∧
    ∃ entry ∈ s.session.registry.index.entries, entry.id = id ∧
      ∀ r : Request, r.method = "POST" →
        r.path = Percent.decode ("/api/documents/" ++ Percent.encodeSegment id) →
        (r.route = .endpoint (.render id) ↔ '/' ∉ id.toList) ∧
        ('/' ∉ id.toList → r.isAllowed s.settings.apiKey = true →
          ∀ (o : Occasion) (wanted : DocumentRequest), r.document = .ok wanted →
            s.answer o r = s.answerRender o r id ∧
            (s.consult (.render id wanted.props)).1 =
              .ofExcept ((entry.render s.tree wanted.props).map Reply.rendered)) := by
  intro s
  obtain ⟨settled, ready, entry, live, rfl⟩ := (settled_run starts past).listed leads lists
  have nonempty : entry.id ≠ "" := by
    obtain ⟨events, same⟩ := settled.ran
    rw [same] at live
    exact Session.live_id_ne_empty root tree events live
  refine ⟨?_, entry, live, rfl, ?_⟩
  · exact fun r => Request.onePart_of_render nonempty
  intro r method path
  have plain : '%' ∉ "/api/documents/".toList := by decide
  rw [Percent.decode_append_encodeSegment plain] at path
  have routed : r.route = .endpoint (.render entry.id) ↔ '/' ∉ entry.id.toList := by
    rw [Request.route_eq_endpoint, path, Endpoint.ofPath?_documentPath nonempty]
    by_cases inside : '/' ∈ entry.id.toList <;> simp [inside, method, Endpoint.method]
  refine ⟨routed, ?_⟩
  intro onePart allowed o wanted asks
  refine ⟨?_, settled.rendered ready live wanted.props⟩
  rw [answer_of_isAllowed allowed, dispatch, routed.2 onePart]
  rfl

/-! ### A document whose id has a slash -/

def slashSource : String := "\x7b% set document_id = 'a/b' %\x7d"

def slashStatements : List Template.Stmt :=
  [.assign 1 (.name "document_id") (.constant (.text "a/b"))]

/-- Two documents: one that gives itself an id, and one that is named by its file. -/
def slashTree : Files.Tree where
  nodes := [(["templates"], .folder),
    (["templates", "a.html"], .file (Text.encodeUtf8 slashSource)),
    (["templates", "b.html"], .file [])]

def slashServer : Server where
  settings := {}
  bearings := { templates := ["templates"], static := ["static"], ttl := .ofSeconds 300 }
  session := .start ["templates"] slashTree
  downloads := { ttl := .ofSeconds 300 }

theorem compile_slash : ∃ d, d.id = some "a/b" ∧
    Document.compile slashTree ["templates"] false ["templates", "a.html"] = .ok d := by
  have source : Document.readSource slashTree false ["templates", "a.html"] =
      .ok ⟨slashSource, none⟩ := Document.readSource_of_octets rfl (by decide) rfl false
  have tokens : Template.tokenize true slashSource =
      Template.settingTokens "document_id" (.text "a/b") ++ [⟨1, .finish⟩] := by cbv
  have parsed : Template.read true slashSource = .ok slashStatements := Template.read_id tokens
  have told : Document.readMetadata .ofDocuments slashStatements = .ok ⟨some "a/b", []⟩ := rfl
  obtain ⟨template, made⟩ : ∃ t, Template.Compiled.ofStatements .ofDocuments (some "a.html")
      slashStatements = .ok t := ⟨_, rfl⟩
  refine ⟨_, ?_, Document.compile_eq_ok.2
    ⟨["templates", "a.html"], ["templates"], _, slashStatements, template, _, rfl, rfl, source,
      parsed, made, told, rfl⟩⟩
  rfl

theorem compile_plain : ∃ d, d.id = none ∧
    Document.compile slashTree ["templates"] false ["templates", "b.html"] = .ok d := by
  have source : Document.readSource slashTree false ["templates", "b.html"] = .ok ⟨"", none⟩ :=
    Document.readSource_of_octets rfl (by decide) rfl false
  have parsed : Template.read true "" = .ok [] := rfl
  have told : Document.readMetadata .ofDocuments [] = .ok ⟨none, []⟩ := rfl
  obtain ⟨template, made⟩ : ∃ t,
      Template.Compiled.ofStatements .ofDocuments (some "b.html") [] = .ok t := ⟨_, rfl⟩
  refine ⟨_, ?_, Document.compile_eq_ok.2
    ⟨["templates", "b.html"], ["templates"], _, [], template, _, rfl, rfl, source, parsed, made, told,
      rfl⟩⟩
  rfl

theorem listing_slashTree : slashServer.session.listing =
    .ok [["templates", "a.html"], ["templates", "b.html"]] := by
  have short : ∀ here ∈ Files.searched slashTree ["templates"],
      Files.isOverlong (["templates"] ++ here) = false := by decide
  have found : Files.documentsBelow slashTree ["templates"] = [["a.html"], ["b.html"]] := by
    decide
  have ordered : [["a.html"], ["b.html"]].mergeSort Files.isBefore = [["a.html"], ["b.html"]] :=
    List.mergeSort_of_pairwise (by decide)
  have listed := Files.searchDocuments_eq (.ofNodes slashTree) rfl rfl short
  simp [Session.listing, slashServer, Session.start, Files.listDocuments, listed, found, ordered,
    Except.map]

theorem rebuilt_slashTree : ∃ a b : Entry, a.id = "a/b" ∧ b.id = "b" ∧
    slashServer.session.rebuilt 1 (fun tree => Document.compile tree ["templates"] false) =
      .ok (Index.ofEntries 1 [a, b]) := by
  obtain ⟨first, named, compiled⟩ := compile_slash
  obtain ⟨second, unnamed, compiledToo⟩ := compile_plain
  refine ⟨⟨"a/b", "a.html", ["templates", "a.html"], first⟩,
    ⟨"b", "b.html", ["templates", "b.html"], second⟩, rfl, rfl, ?_⟩
  have idA : Entry.idOf ["templates", "a.html"] first = "a/b" := by
    rw [Entry.idOf, named]
    rfl
  have idB : Entry.idOf ["templates", "b.html"] second = "b" := by
    rw [Entry.idOf, unnamed]
    decide
  have entryA : Entry.ofDocument slashTree ["templates"] ["templates", "a.html"] first =
      .ok ⟨"a/b", "a.html", ["templates", "a.html"], first⟩ := by
    rw [← idA]
    rfl
  have entryB : Entry.ofDocument slashTree ["templates"] ["templates", "b.html"] second =
      .ok ⟨"b", "b.html", ["templates", "b.html"], second⟩ := by
    rw [← idB]
    rfl
  have tree : slashServer.session.tree = slashTree := rfl
  have root : slashServer.session.root = ["templates"] := rfl
  simp only [Session.rebuilt, listing_slashTree, Session.gather, List.foldlM_cons, List.foldlM_nil,
    Session.collect, tree, root, compiled, compiledToo, ok_bind, entryA, entryB, Except.mapError]
  rfl

theorem slashServer_lists {id : String} (known : id = "a/b" ∨ id = "b") :
    Lists (slashServer.answer blankOccasion listingRequest).response id := by
  obtain ⟨a, b, idA, idB, made⟩ := rebuilt_slashTree
  have unready : slashServer.session.registry.phase ≠ .populated := by decide
  have idle : slashServer.session.Idle := by
    intro g p found
    cases found
  have needs : (DocumentServer.Request.entries = .refresh ∨
      slashServer.session.registry.phase ≠ .populated) := .inr unready
  obtain ⟨_, _, _, registry, told⟩ :=
    Session.ask_made (Session.Sound.start ["templates"] slashTree) idle needs made
  have consulted : (slashServer.consult .entries).1 = .done (.entries [a, b]) := by
    rw [← Index.entries_ofEntries 1 [a, b]]
    refine told.trans ?_
    rw [Session.lookUp, registry]
  have answered : slashServer.answer blankOccasion listingRequest =
      slashServer.answerList .entries := rfl
  rw [answered, response_answerList consulted, lists_documentList]
  rcases known with rfl | rfl
  · exact ⟨a, by simp, idA⟩
  · exact ⟨b, by simp, idB⟩

/-- Asks for the document of an id. -/
def requestFor (id : String) : Request :=
  { linkRequest with path := Percent.decode ("/api/documents/" ++ Percent.encodeSegment id) }

/-- The document that is named by its file can be asked for. -/
theorem slashServer_reaches_file :
    slashServer.session = .start ["templates"] slashTree ∧
      listingRequest.route = .endpoint .documents ∧
      Lists (slashServer.answer blankOccasion listingRequest).response "b" ∧
      (requestFor "b").route = .endpoint (.render "b") := by
  have leads : listingRequest.route = .endpoint .documents := rfl
  have lists := slashServer_lists (.inr rfl : "b" = "a/b" ∨ "b" = "b")
  obtain ⟨_, _, _, _, reaches⟩ :=
    listed_reachable_iff ["templates"] slashTree slashServer rfl [] blankOccasion listingRequest leads
      "b" lists
  exact ⟨rfl, leads, lists, (reaches (requestFor "b") rfl rfl).1.2 (by decide)⟩

/-- The document whose id has a slash is listed, but the request for it leads nowhere. -/
theorem slashServer_loses_document :
    Lists (slashServer.answer blankOccasion listingRequest).response "a/b" ∧
      (requestFor "a/b").method = "POST" ∧ (requestFor "a/b").path = "/api/documents/a/b" ∧
      (requestFor "a/b").route = .nowhere := by
  have path : (requestFor "a/b").path = "/api/documents/a/b" :=
    Percent.decode_append_encodeSegment (by decide) "a/b"
  refine ⟨slashServer_lists (.inl rfl), rfl, path, ?_⟩
  rw [Request.route, path]
  rfl

end Server
end Web
end DocumentServer
