import DocumentServer.Proofs.Document.Compiling
import DocumentServer.Proofs.Registry.Consistency
import DocumentServer.Proofs.Text.Base64
import DocumentServer.Proofs.Web.Downloads
import DocumentServer.Proofs.Web.Percent
import Mathlib

/-!
How a print reaches the client: as it is, in base64, or behind a link. The link gives it to the first
request that comes before the deadline, and to no other, whatever else is asked of the server meanwhile.
-/
namespace DocumentServer.Web
open Calendar

/-! ## Links -/

/-- The signs of a token. -/
def isTokenSign (c : Char) : Bool := c.isAlphanum || c == '-' || c == '_'

variable {token : String} {g : Request}

theorem not_mem_token {c : Char} (signs : token.toList.all isTokenSign = true)
    (other : isTokenSign c = false) : c ∉ token.toList := by
  intro inside
  rw [List.all_eq_true.1 signs c inside] at other
  cases other

def downloadPath (token : String) : String := "/api/downloads/" ++ token

theorem toList_downloadPath (token : String) :
    (downloadPath token).toList = "/api/downloads/".toList ++ token.toList := String.toList_append

/-- The server can give a link to every download. -/
theorem link_eq (r : Request) (token : String) :
    Addressing.link r token = .ok (r.origin ++ downloadPath token) := by
  have read : Address.path? (r.origin ++ "/") = .ok "/" :=
    Address.path?_of_isOrigin r.isOrigin_origin rfl
  have unfolded : Addressing.link r token = r.downloadUrl token := rfl
  have base : r.baseUrl = r.origin ++ "/" := rfl
  rw [unfolded, Request.downloadUrl, base, read, downloadPath, ← String.append_assoc]
  rfl

/-- The path of a link leads to its download. -/
theorem ofPath?_downloadPath (nonempty : token ≠ "") (signs : token.toList.all isTokenSign = true) :
    Endpoint.ofPath? (downloadPath token) = some (.download token) := by
  have path := toList_downloadPath token
  have unknown : Endpoint.fixed.lookup
      (.ofList (Endpoint.dropLineFeed (downloadPath token).toList)) = none := by
    have someChars : token.toList ≠ [] := by simpa using nonempty
    rw [path, Endpoint.dropLineFeed_append _ someChars]
    exact Endpoint.lookup_fixed_append (by decide) _
  have noStatic : Endpoint.staticFile? (downloadPath token).toList = none := by
    rw [path]
    rfl
  have noRender : Endpoint.render? (downloadPath token).toList = none := by
    rw [path]
    rfl
  have isSegment : Endpoint.isSegment token.toList = true := by
    have noSlash : '/' ∉ token.toList := not_mem_token signs (by decide)
    simp [Endpoint.isSegment, noSlash, nonempty]
  rw [Endpoint.ofPath?]
  simp only [unknown, noStatic, noRender]
  rw [path, Endpoint.download?, Text.dropStart?_append]
  simp [isSegment]

theorem path_of_gets {r : Request} (signs : token.toList.all isTokenSign = true)
    (gets : g.Gets r.origin (r.origin ++ downloadPath token)) : g.path = downloadPath token := by
  obtain ⟨_, target, same, path⟩ := gets
  rw [String.append_right_inj] at same
  subst same
  have plain : ∀ c ∈ (downloadPath token).toList, c ≠ '%' ∧ (c != '?') = true := by
    rw [toList_downloadPath, List.forall_mem_append]
    refine ⟨by simp, ?_⟩
    intro c sign
    constructor
    · rintro rfl
      exact not_mem_token signs (by decide) sign
    · rw [bne_iff_ne]
      rintro rfl
      exact not_mem_token signs (by decide) sign
  have noQuery : (splitTarget (downloadPath token)).1 = downloadPath token := by
    rw [splitTarget]
    dsimp only
    rw [List.takeWhile_eq_self_iff.2 fun c inside => (plain c inside).2, String.ofList_toList]
  rw [path, noQuery]
  exact Percent.decode_plain fun inside => (plain _ inside).1 rfl

theorem route_of_gets {r : Request} (nonempty : token ≠ "")
    (signs : token.toList.all isTokenSign = true)
    (gets : g.Gets r.origin (r.origin ++ downloadPath token)) :
    g.route = .endpoint (.download token) := by
  rw [Request.route_eq_endpoint, path_of_gets signs gets]
  exact ⟨gets.1, ofPath?_downloadPath nonempty signs⟩

/-! ## Requests for documents -/

/-- A request with a body in JSON asks for what the JSON says. -/
theorem Request.document_of_json {r : Request} {text : String} {j : Json}
    (typed : (r.header? "content-type").any isJsonType = true)
    (body : r.body = Text.encodeUtf8 text) (nonempty : r.body.isEmpty = false)
    (parsed : Json.readMarked text.toList = .ok j) :
    r.document = (DocumentRequest.read .notFields j.toValue).mapError .issues := by
  have content : readContent r = .ok j.toValue := by
    simp only [readContent, typed, if_pos, readJson, body, Text.decodeUtf8_encodeUtf8, parsed]
  rw [Request.document, nonempty, content]
  rfl

namespace Server

variable {s : Server} {o : Occasion} {r : Request} {wanted : DocumentRequest} {payload : Octets}
  {d : Download}

/-- A request for a document that the server can render, with what the printer makes of it. -/
inductive Prints (s : Server) (o : Occasion) (r : Request) : DocumentRequest → Octets → Prop
  | intro {id : String} {wanted : DocumentRequest} {config : Page.Config} {rendering : Rendering}
      {after : Server} {payload : Octets} :
      r.isAllowed s.settings.apiKey = true → r.route = .endpoint (.render id) →
      r.document = .ok wanted → wanted.pageConfig s.settings.page = .ok config →
      s.consult (.render id wanted.props) = (.done (.rendered rendering), after) →
      o.printer ⟨r.baseUrl, rendering.markup, config⟩ = .ok payload → Prints s o r wanted payload

/-- What was printed is delivered in the format that was asked for. -/
theorem Prints.answer (prints : s.Prints o r wanted payload) :
    ∃ (after : Server) (print : Print), after.downloads = s.downloads ∧ print.payload = payload ∧
      s.answer o r = after.deliver o r print wanted.format := by
  cases prints with
  | @intro id _ config rendering after _ allowed leads asks page rendered printed =>
      refine ⟨after, ⟨id, ⟨r.baseUrl, rendering.markup, config⟩, payload⟩, ?_, rfl, ?_⟩
      · rw [← downloads_consult s (.render id wanted.props), rendered]
      · have base : Addressing.base r = r.baseUrl := rfl
        simp only [answer_of_isAllowed allowed, dispatch, leads, serve, answerRender, asks, produce,
          page, rendered, Server.print, base, printed]

/-- The answer to a request for a download. -/
theorem response_answerDownload (distinct : s.downloads.Distinct) (o : Occasion) (token : String) :
    (s.answerDownload o token).response =
      match (s.downloads.find? token).filter fun d => !d.isExpired o.now with
      | some d => .ofPayload d.payload d.mimeType
      | none => .refusal 404 "Download expired" := by
  have found : ((s.downloads.dropExpired o.now).2.consume o.now token).1 =
      ((s.downloads.find? token).filter fun d => !d.isExpired o.now).bind
        (DownloadStore.deliver o.now) := by
    rw [← DownloadStore.find?_dropExpired distinct]
    rfl
  unfold answerDownload
  dsimp only
  rw [found]
  cases there : (s.downloads.find? token).filter fun d => !d.isExpired o.now with
  | none => rfl
  | some d =>
      have live := (Option.filter_eq_some_iff.1 there).2
      have delivered : DownloadStore.deliver o.now d = some d := by
        rw [DownloadStore.deliver, if_neg (by simpa using live)]
      rw [Option.bind_some, delivered]
      rfl

/-- A link puts its print into the store. -/
theorem issueLink_of_deadline (r : Request) (print : Print) {deadline : DateTime}
    (later : o.now.add? s.downloads.ttl = some deadline) :
    s.issueLink o r print =
      { response := .ofJson 200 (linkJson print (r.origin ++ downloadPath o.token) s.downloads.ttl)
        server := { s with downloads := s.downloads.insert ⟨o.token, print.payload, Response.pdfType, deadline⟩ }
        printed := [print.job]
        drawsToken := true } := by
  have made : s.downloads.prepare o.now o.token print.payload Response.pdfType none =
      .ok ⟨o.token, print.payload, Response.pdfType, deadline⟩ :=
    DownloadStore.prepare_of_deadline (d := ⟨o.token, print.payload, Response.pdfType, deadline⟩) later
  simp only [issueLink, DownloadStore.issue, made, Except.map, linkResponse, link_eq]

/-! ## What the client gets -/

/-- The clock is never behind an earlier reading. -/
def Forward (turns : List Turn) : Prop :=
  (turns.filterMap Turn.time?).Pairwise fun a b => a.instant ≤ b.instant

/-- A download is given to the first request for it, if it comes in time. -/
theorem fetches_once {later : List Turn} (distinct : s.downloads.Distinct)
    (kept : s.downloads.find? d.token = some d) (undrawn : d.token ∉ s.drawn later)
    (forward : ∀ now ∈ later.filterMap Turn.time?, now.instant ≤ o.now.instant)
    (leads : g.route = .endpoint (.download d.token)) :
    (d.token ∉ later.filterMap Turn.fetched? → o.now.instant < d.deadline.instant →
      ((s.run later).answer o g).response = .ofPayload d.payload d.mimeType) ∧
    (d.token ∈ later.filterMap Turn.fetched? ∨ d.deadline.instant ≤ o.now.instant →
      ((s.run later).answer o g).response = .refusal 404 "Download expired") := by
  rw [answer_download Addressing.standard_lawful leads, response_answerDownload (distinct_run distinct later)]
  rcases find?_run Addressing.standard_lawful distinct kept undrawn with ⟨there, unfetched⟩ | ⟨gone, why⟩
  · rw [there]
    constructor
    · intro _ early
      have live : d.isExpired o.now = false := by
        rw [← Bool.not_eq_true, DownloadStore.isExpired_iff]
        omega
      rw [Option.filter_eq_some_iff.2 ⟨rfl, by simp [live]⟩]
    · rintro (fetched | late)
      · exact absurd fetched unfetched
      · have expired := (DownloadStore.isExpired_iff d o.now).2 late
        rw [Option.filter_eq_none_iff.2 (by simp [expired])]
  · rw [gone]
    refine ⟨?_, fun _ => rfl⟩
    intro unfetched early
    rcases why with fetched | ⟨now, read, late⟩
    · exact absurd fetched unfetched
    · have order := forward now read
      omega

/-- A download that a request has put into the store is given to the first request for it, if it comes
in time. -/
theorem stored_fetched_once {first : Server} {past later : List Turn} {og : Occasion}
    (distinct : first.downloads.Distinct)
    (stored : ((first.run past).turn (.request o r)).downloads =
      (first.run past).downloads.insert d)
    (draws : (first.run past).drawn? (.request o r) = some d.token)
    (fresh : (first.drawn (past ++ .request o r :: later)).Nodup)
    (forward : Forward (past ++ .request o r :: later ++ [.request og g]))
    (leads : g.route = .endpoint (.download d.token)) :
    (d.token ∉ later.filterMap Turn.fetched? → og.now.instant < d.deadline.instant →
      ((first.run (past ++ .request o r :: later)).answer og g).response =
        .ofPayload d.payload d.mimeType) ∧
    (d.token ∈ later.filterMap Turn.fetched? ∨ d.deadline.instant ≤ og.now.instant →
      ((first.run (past ++ .request o r :: later)).answer og g).response =
        .refusal 404 "Download expired") := by
  have there : ((first.run past).turn (.request o r)).downloads.find? d.token = some d := by
    rw [stored, DownloadStore.find?_insert, if_pos rfl]
  have undrawn : d.token ∉ ((first.run past).turn (.request o r)).drawn later := by
    rw [drawn_append, Server.drawn, draws] at fresh
    have fromHere := (List.nodup_append.1 fresh).2.1
    exact (List.nodup_cons.1 fromHere).1
  have earlier : ∀ now ∈ later.filterMap Turn.time?, now.instant ≤ og.now.instant := by
    intro now read
    rw [Forward, List.filterMap_append, List.pairwise_append] at forward
    refine forward.2.2 now ?_ og.now (by simp [Turn.time?])
    rw [List.filterMap_append, List.mem_append]
    exact .inr (List.mem_cons_of_mem o.now read)
  have distinctNow := distinct_run distinct (past ++ [.request o r])
  rw [run_concat] at distinctNow
  rw [run_append]
  exact fetches_once distinctNow there undrawn earlier leads

def blankEntry : Entry where
  id := "a"
  slug := "a.html"
  path := ["templates", "a.html"]
  document := Session.blankDocument ["templates", "a.html"]

/-- A server that knows one document, which is blank. -/
def blankServer : Server where
  settings := {}
  bearings := { templates := ["templates"], static := ["static"], ttl := .ofSeconds 300 }
  session :=
    { root := ["templates"], tree := .empty
      registry :=
        { index :=
            { byId := [("a", blankEntry)], byPath := [(blankEntry.path, blankEntry)], generation := 1 }
          phase := .populated
          generation := 1 } }
  downloads := { ttl := .ofSeconds 300 }

/-- Asks for a link to the blank document. -/
def linkRequest : Request where
  method := "POST"
  scheme := "http"
  path := "/api/documents/a"
  query := ""
  headers := [("host", "localhost"), ("content-type", "application/json")]
  body := Text.encodeUtf8 "\x7b\"props\":\x7b\x7d,\"format\":\"json\"\x7d"
  receiver := "localhost"

/-- An occasion on which every print is one octet. -/
def printingOccasion : Occasion := { blankOccasion with printer := fun _ => .ok [37] }

theorem linkRequest_typed : (linkRequest.header? "content-type").any isJsonType = true := by
  decide

theorem linkRequest_asks : linkRequest.document = .ok { props := [], format := .link } := by
  have parsed : Json.readMarked "\x7b\"props\":\x7b\x7d,\"format\":\"json\"\x7d".toList =
      .ok (.object [("props", .object []), ("format", .text "json")]) := by cbv
  rw [Request.document_of_json linkRequest_typed rfl rfl parsed]
  rfl

theorem blankServer_renders : (blankServer.consult (.render "a" [])).1 =
    .done (.rendered ⟨"", none⟩) := by
  have blank : blankEntry.render .empty [] = .ok ⟨"", none⟩ := Entry.render_blank rfl rfl rfl .empty
  change Outcome.ofExcept ((renderFound .empty "a" [] (some blankEntry)).map Reply.rendered) = _
  rw [renderFound, blank]
  rfl

theorem blankServer_prints :
    blankServer.Prints printingOccasion linkRequest { props := [], format := .link } [37] := by
  have page : DocumentRequest.pageConfig { props := [], format := .link }
      blankServer.settings.page = .ok .a4Portrait := rfl
  exact .intro rfl rfl linkRequest_asks page (Prod.ext blankServer_renders rfl) rfl

end Server
end DocumentServer.Web
