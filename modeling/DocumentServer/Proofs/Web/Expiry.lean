import DocumentServer.Proofs.Calendar.Deadline
import DocumentServer.Proofs.Web.Reach
import DocumentServer.Proofs.Web.Rendering

/-!
How long links last. Any positive number of seconds is accepted in the settings, but a server can only
be started with a number that is a duration, and a link can only be given while its deadline is in the
calendar. A link that is given says exactly how long it lasts.
-/
namespace DocumentServer

/-- The settings say how long downloads last, if that is a duration. -/
theorem Settings.downloadTtl_eq_ok {settings : Settings} {ttl : Calendar.Duration} :
    settings.downloadTtl = .ok ttl ↔
      ttl = .ofSeconds settings.downloadSeconds ∧
        settings.downloadSeconds < (Calendar.Duration.maxDays + 1) * 86400 := by
  rw [← Calendar.Duration.isInRange_ofSeconds settings.downloadSeconds_pos]
  have unfolded : settings.downloadTtl =
      Formatting.checkedDuration (Calendar.Duration.ofSeconds settings.downloadSeconds).micros := rfl
  rw [unfolded, Formatting.checkedDuration]
  split
  · next inside =>
      constructor
      · intro same
        cases same
        exact ⟨rfl, inside⟩
      · rintro ⟨rfl, _⟩
        rfl
  · next outside =>
      constructor
      · intro same
        split at same <;> cases same
      · rintro ⟨_, inside⟩
        exact absurd inside outside

namespace Web.Server
open Calendar

variable {s : Server} {o : Occasion} {r : Request} {wanted : DocumentRequest} {payload : Octets}
  {id : String}

/-! ## Starting -/

/-- A server with its folders, before the first request. -/
def fresh (settings : Settings) (surroundings : Settings.Surroundings) (folder : Files.Path) :
    Server where
  settings
  bearings :=
    { templates := folder ++ ["templates"], static := folder ++ ["static"],
      ttl := .ofSeconds settings.downloadSeconds }
  session := .start (folder ++ ["templates"]) surroundings.tree
  downloads := { ttl := .ofSeconds settings.downloadSeconds }

/-- All that a server needs to be started is its folder and a duration. -/
theorem start_eq_ok {settings : Settings} {surroundings : Settings.Surroundings} {first : Server} :
    start settings surroundings = .ok first ↔
      ∃ folder, settings.documentsFolder surroundings = .ok folder ∧
        settings.downloadSeconds < (Duration.maxDays + 1) * 86400 ∧
        first = fresh settings surroundings folder := by
  have templates : ∀ path, settings.templatesFolder surroundings = .ok path ↔
      ∃ folder, settings.documentsFolder surroundings = .ok folder ∧
        folder ++ ["templates"] = path := fun path => map_eq_ok
  have static : ∀ path, settings.staticFolder surroundings = .ok path ↔
      ∃ folder, settings.documentsFolder surroundings = .ok folder ∧
        folder ++ ["static"] = path := fun path => map_eq_ok
  simp only [start, Settings.bearings, bind_eq_ok, templates, static, Settings.downloadTtl_eq_ok]
  constructor
  · rintro ⟨bearings, ⟨_, ⟨folder, found, rfl⟩, _, ⟨rfl, inside⟩, _, ⟨again, same, rfl⟩, made⟩, began⟩
    rw [found] at same
    cases same
    cases made
    cases began
    exact ⟨folder, found, inside, rfl⟩
  · rintro ⟨folder, found, inside, rfl⟩
    exact ⟨_, ⟨_, ⟨folder, found, rfl⟩, _, ⟨rfl, inside⟩, _, ⟨folder, found, rfl⟩, rfl⟩, rfl⟩

/-! ## Asking again in another format -/

/-- A request that was answered with a document has been printed. -/
theorem prints_of_told (leads : r.route = .endpoint (.render id)) (asks : r.document = .ok wanted)
    (told : (s.answer o r).response.status = 200) : ∃ payload, s.Prints o r wanted payload := by
  obtain ⟨allowed, goesOn⟩ : r.isAllowed s.settings.apiKey = true ∧
      s.answer o r = s.dispatch o r := by
    refine (answer_eq s o r).resolve_right ?_
    rintro ⟨_, response, refuses, same⟩
    rw [same] at told
    exact refuses told
  have answered : s.answer o r = s.answerRender o r id := by
    rw [goesOn, dispatch, leads]
    rfl
  rw [answered] at told
  have ends := ends_answerRender s o r id
  generalize s.answerRender o r id = x at told ends
  cases ends with
  | refused refuses =>
      rw [asks] at refuses
      cases refuses
  | unrendered _ _ => exact absurd told (Exchange.failed_refuses _ _)
  | unprinted _ _ => exact absurd told (Response.ofFailure_refuses _)
  | @delivered asked rendering after payload renders printed =>
      have same := renders.asks
      rw [asks] at same
      cases same
      exact ⟨payload, .intro allowed leads asks (DocumentRequest.pageConfig_accepted ..)
        renders.rendered printed⟩

/-- A document that was printed for one body is printed for every body that asks for the same in
another format. -/
theorem Prints.reformatted {body : Octets} {format : AnswerFormat}
    (prints : s.Prints o r wanted payload)
    (asks : Request.document { r with body } = .ok { wanted with format }) :
    s.Prints o { r with body } { wanted with format } payload := by
  cases prints with
  | intro allowed leads _ page rendered printed =>
      exact .intro allowed leads asks page rendered printed

/-! ## Links -/

theorem issueLink_of_no_deadline (r : Request) (print : Print)
    (late : o.now.add? s.downloads.ttl = none) :
    s.issueLink o r print =
      { response := .internalError, server := s, printed := [print.job], drawsToken := true } := by
  have made : s.downloads.prepare o.now o.token print.payload Response.pdfType none =
      .error (.overflow "date value out of range") := by
    simp only [DownloadStore.prepare, Option.getD_none, late]
  simp only [issueLink, DownloadStore.issue, made, Except.map]
  rfl

/-- A link is answered with how long it lasts, in milliseconds, if it has a deadline. -/
theorem Prints.link (prints : s.Prints o r wanted payload) (format : wanted.format = .link)
    {seconds : Int} (positive : 0 < seconds) (lasts : s.downloads.ttl = .ofSeconds seconds) :
    (o.now.localMicros + seconds * microsPerSecond < (lastDay + 1) * microsPerDay →
      ∃ content, (s.answer o r).response = .ofJson 200 content ∧
        content.member? "expiresInMs" = some (.int (1000 * seconds))) ∧
    ((lastDay + 1) * microsPerDay ≤ o.now.localMicros + seconds * microsPerSecond →
      (s.answer o r).response = .internalError) := by
  obtain ⟨after, print, kept, _, answered⟩ := prints.answer
  rw [answered, format, deliver]
  rw [← kept] at lasts
  have forward : 0 ≤ (Duration.ofSeconds seconds).micros :=
    Int.mul_nonneg positive.le (Int.natCast_nonneg _)
  have representable := DateTime.add?_isSome (t := o.now) forward
  constructor
  · intro early
    obtain ⟨deadline, later⟩ := Option.isSome_iff_exists.1 (representable.2 early)
    rw [← lasts] at later
    rw [issueLink_of_deadline r print later, ← Duration.millis_of_deadline positive early, ← lasts]
    exact ⟨_, rfl, rfl⟩
  · intro late
    have never : o.now.add? after.downloads.ttl = none := by
      rw [lasts, ← Option.not_isSome_iff_eq_none]
      exact fun there => late.not_gt (representable.1 there)
    rw [issueLink_of_no_deadline r print never]

/-- Settings with any number of seconds make a server, as long as the number is a duration. A document
that the server prints is then handed out under a link as well, exactly as long as the deadline of the
link is in the calendar, and the link tells the number of seconds without loss. Past the end of the
calendar the answer is an error. -/
theorem link_lasts_as_set (settings : Settings) (surroundings : Settings.Surroundings) :
    ((∃ first, start settings surroundings = .ok first) ↔
      (∃ folder, settings.documentsFolder surroundings = .ok folder) ∧
        settings.downloadSeconds < (Duration.maxDays + 1) * 86400) ∧
    ∀ first, start settings surroundings = .ok first →
      ∀ (past : List Turn) (o : Occasion) (r : Request) (id : String) (wanted : DocumentRequest)
        (body : Octets),
        r.route = .endpoint (.render id) → r.document = .ok { wanted with format := .pdf } →
        ((first.run past).answer o r).response.status = 200 →
        Request.document { r with body } = .ok { wanted with format := .link } →
        let response := ((first.run past).answer o { r with body }).response
        let deadline := o.now.localMicros + settings.downloadSeconds * microsPerSecond
        (deadline < (lastDay + 1) * microsPerDay → ∃ content, response = .ofJson 200 content ∧
          content.member? "expiresInMs" = some (.int (1000 * settings.downloadSeconds))) ∧
        ((lastDay + 1) * microsPerDay ≤ deadline → response = .internalError) := by
  constructor
  · simp only [start_eq_ok]
    constructor
    · rintro ⟨_, folder, found, inside, _⟩
      exact ⟨⟨folder, found⟩, inside⟩
    · rintro ⟨⟨folder, found⟩, inside⟩
      exact ⟨_, folder, found, inside, rfl⟩
  intro first started past o r id wanted body leads asks told asksLink response deadline
  obtain ⟨folder, _, _, rfl⟩ := start_eq_ok.1 started
  obtain ⟨payload, prints⟩ := prints_of_told leads asks told
  have lasts : ((fresh settings surroundings folder).run past).downloads.ttl =
      .ofSeconds settings.downloadSeconds := by
    rw [ttl_run]
    rfl
  exact (prints.reformatted asksLink).link rfl settings.downloadSeconds_pos lasts

/-! ### A page under a link -/

/-- The files of a server whose only document is blank. -/
def pageTree : Files.Tree where
  nodes := [(["templates"], .folder), (["templates", "a.html"], .file [])]

def pageSurroundings : Settings.Surroundings where
  tree := pageTree
  folder := []
  home := []

/-- Settings that are given as a number of seconds. -/
def secondsSources (seconds : Int) : SettingSources where
  arguments := [("documents_dir", .text "/"), ("download_ttl_seconds", .int seconds)]
  environment := []
  envFile := none

def secondsSettings : { n : Int // 0 < n } → Settings
  | ⟨downloadSeconds, downloadSeconds_pos⟩ =>
    { documentsDir := some "/", downloadSeconds, downloadSeconds_pos }

def pageServer (seconds : { n : Int // 0 < n }) : Server :=
  fresh (secondsSettings seconds) pageSurroundings []

/-- Asks for the blank page itself. -/
def pageRequest : Request := { linkRequest with body := Text.encodeUtf8 "\x7b\"props\":\x7b\x7d\x7d" }

def pageEntry : Entry where
  id := "a"
  slug := "a.html"
  path := ["templates", "a.html"]
  document :=
    { environment := .ofDocuments
      template := { name := some "a.html", statements := [], blocks := [], mayExtend := false }
      path := ["templates", "a.html"], root := ["templates"], css := none, id := none
      previewProps := [] }

theorem compile_page : Document.compile pageTree ["templates"] false ["templates", "a.html"] =
    .ok pageEntry.document := by
  have source : Document.readSource pageTree false ["templates", "a.html"] = .ok ⟨"", none⟩ :=
    Document.readSource_of_octets rfl rfl rfl false
  have parsed : Template.read true "" = .ok [] := rfl
  exact Document.compile_eq_ok.2
    ⟨["templates", "a.html"], ["templates"], _, [], _, ⟨none, []⟩, rfl, rfl, source, parsed, rfl, rfl,
      rfl⟩

def pageSession : Session := .start ["templates"] pageTree

theorem rebuilt_page :
    pageSession.rebuilt 1 (fun tree => Document.compile tree ["templates"] false) =
      .ok (Index.ofEntries 1 [pageEntry]) := by
  have listed : pageSession.listing = .ok [["templates", "a.html"]] := by
    have short : ∀ here ∈ Files.searched pageTree ["templates"],
        Files.isOverlong (["templates"] ++ here) = false := by decide
    have found : Files.documentsBelow pageTree ["templates"] = [["a.html"]] := rfl
    have listed := Files.searchDocuments_eq (.ofNodes pageTree) rfl rfl short
    simp [Session.listing, pageSession, Session.start, Files.listDocuments, listed, found, Except.map]
  have tree : pageSession.tree = pageTree := rfl
  have root : pageSession.root = ["templates"] := rfl
  have entry : Entry.ofDocument pageTree ["templates"] ["templates", "a.html"] pageEntry.document =
      .ok pageEntry := rfl
  simp only [Session.rebuilt, listed, Session.gather, List.foldlM_cons, List.foldlM_nil,
    Session.collect, tree, root, compile_page, ok_bind, entry, Except.mapError]
  rfl

variable (seconds : { n : Int // 0 < n })

theorem pageRequest_asks : pageRequest.document = .ok { props := [] } := by
  have typed : (pageRequest.header? "content-type").any isJsonType = true := linkRequest_typed
  have parsed : Json.readMarked "\x7b\"props\":\x7b\x7d\x7d".toList =
      .ok (.object [("props", .object [])]) := by cbv
  rw [Request.document_of_json typed rfl rfl parsed]
  rfl

theorem pageServer_renders : ((pageServer seconds).consult (.render "a" [])).1 =
    .done (.rendered ⟨"", none⟩) := by
  have idle : pageSession.Idle := by
    intro g p found
    cases found
  have needs : (DocumentServer.Request.render "a" [] = .refresh ∨
      pageSession.registry.phase ≠ .populated) := .inr nofun
  have sound : pageSession.Sound := Session.Sound.start ["templates"] pageTree
  obtain ⟨_, _, tree, registry, told⟩ := Session.ask_made sound idle needs rebuilt_page
  have live : pageSession.tree = pageTree := rfl
  have blank : pageEntry.render pageTree [] = .ok ⟨"", none⟩ := Entry.render_blank rfl rfl rfl pageTree
  refine told.trans ?_
  rw [Session.lookUp, tree, live, registry, Registry.render]
  change Outcome.ofExcept ((renderFound pageTree "a" [] (some pageEntry)).map Reply.rendered) = _
  rw [renderFound, blank]
  rfl

theorem pageServer_prints : (pageServer seconds).Prints printingOccasion pageRequest
    { props := [] } [37] := by
  have leads : pageRequest.route = .endpoint (.render "a") := rfl
  have allowed : pageRequest.isAllowed (pageServer seconds).settings.apiKey = true := rfl
  have consulted : (pageServer seconds).consult (.render "a" []) =
      (.done (.rendered ⟨"", none⟩), ((pageServer seconds).consult (.render "a" [])).2) :=
    Prod.ext (pageServer_renders seconds) rfl
  exact .intro allowed leads pageRequest_asks (DocumentRequest.pageConfig_accepted ..) consulted rfl

theorem start_page (inside : seconds.1 < (Duration.maxDays + 1) * 86400) :
    start (secondsSettings seconds) pageSurroundings = .ok (pageServer seconds) :=
  start_eq_ok.2 ⟨[], rfl, inside, rfl⟩

theorem pageServer_answers :
    ((pageServer seconds).answer printingOccasion pageRequest).response.status = 200 := by
  have prints : (pageServer seconds).Prints printingOccasion pageRequest { props := [] } [37] :=
    pageServer_prints seconds
  obtain ⟨after, print, _, _, answered⟩ := prints.answer
  rw [answered]
  rfl

def fiveMinutes : { n : Int // 0 < n } := Settings.positive 300 Settings.fiveMinutes_pos

/-- A link that lasts five minutes. -/
theorem fiveMinutes_linked :
    start (secondsSettings fiveMinutes) pageSurroundings = .ok (pageServer fiveMinutes) ∧
      ((pageServer fiveMinutes).answer printingOccasion pageRequest).response.status = 200 ∧
      ∃ content,
        ((pageServer fiveMinutes).answer printingOccasion
          { pageRequest with body := linkRequest.body }).response = .ofJson 200 content ∧
        content.member? "expiresInMs" = some (.int (1000 * 300)) := by
  have started : start (secondsSettings fiveMinutes) pageSurroundings =
      .ok (pageServer fiveMinutes) := start_page fiveMinutes (by decide)
  have ran : (pageServer fiveMinutes).run [] = pageServer fiveMinutes := rfl
  have told : (((pageServer fiveMinutes).run []).answer printingOccasion pageRequest).response.status =
      200 := by
    rw [ran]
    exact pageServer_answers fiveMinutes
  have leads : pageRequest.route = .endpoint (.render "a") := rfl
  have lasts := (link_lasts_as_set _ _).2 _ started [] printingOccasion pageRequest "a" { props := [] }
    linkRequest.body leads pageRequest_asks told linkRequest_asks
  rw [ran] at told lasts
  exact ⟨started, told, lasts.1 (by decide)⟩

def thousandsOfYears : { n : Int // 0 < n } := Settings.positive 400000000000

def millionsOfYears : { n : Int // 0 < n } := Settings.positive 100000000000000

/-- Two numbers of seconds that are accepted. With one no link can be given for a document that is
printed, and with the other there is no server. -/
theorem longLasting_unlinked :
    (Settings.read (secondsSources thousandsOfYears) = .ok (secondsSettings thousandsOfYears) ∧
      start (secondsSettings thousandsOfYears) pageSurroundings = .ok (pageServer thousandsOfYears) ∧
      ((pageServer thousandsOfYears).answer printingOccasion pageRequest).response.status = 200 ∧
      Request.document { pageRequest with body := linkRequest.body } =
        .ok { props := [], format := .link } ∧
      ((pageServer thousandsOfYears).answer printingOccasion
        { pageRequest with body := linkRequest.body }).response = .internalError) ∧
    Settings.read (secondsSources millionsOfYears) = .ok (secondsSettings millionsOfYears) ∧
      ∀ first, start (secondsSettings millionsOfYears) pageSurroundings ≠ .ok first := by
  constructor
  · have prints : (pageServer thousandsOfYears).Prints printingOccasion
        { pageRequest with body := linkRequest.body } { props := [], format := .link } [37] :=
      (pageServer_prints thousandsOfYears).reformatted linkRequest_asks
    have lasts : (pageServer thousandsOfYears).downloads.ttl = .ofSeconds thousandsOfYears.1 := rfl
    have late : (lastDay + 1) * microsPerDay ≤
        printingOccasion.now.localMicros + thousandsOfYears.1 * microsPerSecond := by decide
    exact ⟨rfl, start_page thousandsOfYears (by decide), pageServer_answers thousandsOfYears,
      linkRequest_asks, (prints.link rfl thousandsOfYears.2 lasts).2 late⟩
  · refine ⟨rfl, fun first started => ?_⟩
    obtain ⟨_, _, inside, _⟩ := start_eq_ok.1 started
    exact absurd inside (by decide)

end Web.Server
end DocumentServer
