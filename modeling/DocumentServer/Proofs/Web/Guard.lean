import DocumentServer.Proofs.Download.Delivery
import DocumentServer.Proofs.Web.Address
import DocumentServer.Proofs.Web.Route
import DocumentServer.Web.Answer

/-!
What the guard is worth. Without the key nothing behind it is run, and for everything else the server
is the one that has no key.
-/
namespace DocumentServer.Web

/-- Whether an endpoint is behind the guard. -/
def Endpoint.isGuarded : Endpoint → Bool
  | .documents | .refresh | .render _ => true
  | _ => false

namespace Request

variable {r : Request} {e : Endpoint} {key : String}

/-! ## Who shows a key -/

/-- Whether a name is that of the header for keys, in whatever case. -/
def IsKeyHeader (name : String) : Prop := name.toList.map Char.toLower = "authorization".toList

/-- A request shows a key in the first of its headers that is meant for keys. -/
def Shows (r : Request) (key : String) : Prop :=
  ∃ before name after, r.headers = before ++ (name, key) :: after ∧ IsKeyHeader name ∧
    ∀ earlier ∈ before, ¬IsKeyHeader earlier.1

theorem shows_iff : r.Shows key ↔ r.header? "authorization" = some key := by
  rw [Shows, header?, Option.map_eq_some_iff]
  constructor
  · rintro ⟨before, name, after, split, named, first⟩
    refine ⟨(name, key), List.find?_eq_some_iff_append.2 ⟨beq_iff_eq.2 named, before, after, split, ?_⟩,
      rfl⟩
    intro earlier member
    rw [Bool.not_eq_true', beq_eq_false_iff_ne]
    exact first earlier member
  · rintro ⟨⟨name, _⟩, found, rfl⟩
    obtain ⟨named, before, after, split, first⟩ := List.find?_eq_some_iff_append.1 found
    refine ⟨before, name, after, split, beq_iff_eq.1 named, ?_⟩
    intro earlier member named
    have other := first earlier member
    rw [Bool.not_eq_true', beq_eq_false_iff_ne] at other
    exact other named

/-! ## What is public -/

theorem plainPath_fixed {path : String} (known : (path, e) ∈ Endpoint.fixed)
    (at_ : r.path.toList = path.toList ∨ r.path.toList = path.toList ++ ['\n']) :
    r.plainPath = path := by
  have plain : ∃ start : List Char, path.toList = '/' :: start ∧ start.all isPathSign = true := by
    simp only [Endpoint.fixed, List.mem_cons, Prod.mk.injEq, List.not_mem_nil, or_false] at known
    rcases known with ⟨rfl, rfl⟩ | ⟨rfl, rfl⟩ | ⟨rfl, rfl⟩ | ⟨rfl, rfl⟩
    all_goals exact ⟨_, rfl, by decide⟩
  obtain ⟨start, same, plain⟩ := plain
  rw [← String.toList_inj, same]
  rcases at_ with here | here
  · rw [plainPath_append start [] (by rw [here, same, List.append_nil]) plain, readBack_nil,
      List.append_nil]
  · rw [plainPath_append start ['\n'] (by rw [here, same]) plain, readBack_lineFeed,
      List.append_nil]

/-- What the router takes to an endpoint is public exactly if the endpoint is not behind the guard. -/
theorem isPublicPath_of_route (leads : r.route = .endpoint e) :
    isPublicPath r.method r.plainPath = !e.isGuarded := by
  obtain ⟨method, found⟩ := route_eq_endpoint.1 leads
  rcases Endpoint.ofPath?_cases found with ⟨path, known, at_⟩ | ⟨relative, rest, rfl, at_⟩ |
    ⟨id, rfl, at_⟩ | ⟨token, rfl, at_⟩
  · rw [plainPath_fixed known at_, method]
    simp only [Endpoint.fixed, List.mem_cons, Prod.mk.injEq, List.not_mem_nil, or_false] at known
    rcases known with ⟨rfl, rfl⟩ | ⟨rfl, rfl⟩ | ⟨rfl, rfl⟩ | ⟨rfl, rfl⟩ <;> rfl
  · have path := plainPath_append "static/".toList _ at_ (by decide)
    simp only [isPublicPath, publicStarts, List.any_cons, Text.beginsWith, path]
    rfl
  · have path := plainPath_append "api/documents/".toList _ at_ (by decide)
    simp only [isPublicPath, publicStarts, List.any_cons, Text.beginsWith, path, method]
    rfl
  · have path := plainPath_append "api/downloads/".toList _ at_ (by decide)
    simp only [isPublicPath, publicStarts, List.any_cons, Text.beginsWith, path, method]
    rfl

theorem isRooted_of_route (leads : r.route = .endpoint e) : r.IsRooted := by
  obtain ⟨_, found⟩ := route_eq_endpoint.1 leads
  rw [IsRooted]
  rcases Endpoint.ofPath?_cases found with ⟨path, known, at_⟩ | ⟨relative, rest, rfl, at_⟩ |
    ⟨id, rfl, at_⟩ | ⟨token, rfl, at_⟩
  · simp only [Endpoint.fixed, List.mem_cons, Prod.mk.injEq, List.not_mem_nil, or_false] at known
    rcases known with ⟨rfl, rfl⟩ | ⟨rfl, rfl⟩ | ⟨rfl, rfl⟩ | ⟨rfl, rfl⟩
    all_goals rcases at_ with here | here <;> rw [here] <;> rfl
  all_goals
    rw [at_]
    rfl

/-- The guard tells for all that leads to an endpoint whether it is public. -/
theorem isPublic_of_route [Addressing] (lawful : Addressing.Lawful) (leads : r.route = .endpoint e) :
    r.isPublic = .ok (!e.isGuarded) := by
  rw [isPublic, addressPath_eq lawful (isRooted_of_route leads), ← isPublicPath_of_route leads]
  rfl

theorem isAllowed_iff [Addressing] {given : Option String} :
    r.isAllowed given = true ↔ r.admission given = .ok true := by
  unfold isAllowed
  cases r.admission given <;> simp

end Request

/-! ## What is run -/

namespace Server

section

variable [Addressing] {s : Server} {o : Occasion} {r : Request} {e : Endpoint} {key : String}

/-- The endpoint that a request gets to. -/
def reached? (s : Server) (r : Request) : Option Endpoint :=
  if r.isAllowed s.settings.apiKey then
    match r.route with
    | .endpoint e => some e
    | _ => none
  else none

theorem reached?_eq_some :
    s.reached? r = some e ↔ r.isAllowed s.settings.apiKey = true ∧ r.route = .endpoint e := by
  unfold reached?
  split
  · next allowed =>
      rw [and_iff_right allowed]
      cases r.route <;> simp
  · next refused => simp [refused]

/-- A request that may go on goes on, and any other is refused. -/
theorem answer_eq (s : Server) (o : Occasion) (r : Request) :
    r.isAllowed s.settings.apiKey = true ∧ s.answer o r = s.dispatch o r ∨
      r.isAllowed s.settings.apiKey = false ∧
        ∃ response, response.status ≠ 200 ∧ s.answer o r = .plain s response := by
  unfold answer Request.isAllowed
  rcases r.admission s.settings.apiKey with f | _ | _
  · exact .inr ⟨rfl, .internalError, by decide, rfl⟩
  · exact .inr ⟨rfl, .unauthorized, by decide, rfl⟩
  · exact .inl ⟨rfl, rfl⟩

theorem answer_of_isAllowed (allowed : r.isAllowed s.settings.apiKey = true) :
    s.answer o r = s.dispatch o r := by
  rw [answer, Request.isAllowed_iff.1 allowed]

/-- Only the endpoint that a request gets to is run. -/
theorem answer_cases (s : Server) (o : Occasion) (r : Request) :
    (∃ e, s.reached? r = some e ∧ s.answer o r = s.serve o r e) ∨
      s.reached? r = none ∧ ∃ response, s.answer o r = .plain s response := by
  rcases answer_eq s o r with ⟨allowed, same⟩ | ⟨refused, response, _, told⟩
  · rw [reached?, if_pos allowed, same, dispatch]
    cases r.route with
    | endpoint e => exact .inl ⟨e, rfl, rfl⟩
    | wrongMethod allowed => exact .inr ⟨rfl, _, rfl⟩
    | redirect path => exact .inr ⟨rfl, _, rfl⟩
    | nowhere => exact .inr ⟨rfl, _, rfl⟩
  · exact .inr ⟨by simp [reached?, refused], response, told⟩

theorem serve_unguarded (unguarded : e.isGuarded = false) :
    (s.serve o r e).server.session = s.session ∧ (s.serve o r e).printed = [] := by
  cases e with
  | download token =>
      simp only [serve, answerDownload]
      split <;> exact ⟨rfl, rfl⟩
  | documents => cases unguarded
  | refresh => cases unguarded
  | render id => cases unguarded
  | _ => exact ⟨rfl, rfl⟩

/-- Past the guard comes what is public, and who shows the key. -/
theorem admission_eq (nonempty : key ≠ "") : r.admission (some key) =
    r.isPublic.map (· || decide (r.header? "authorization" = some key)) := by
  have given : key.isEmpty = false := by simpa using nonempty
  have shown : (r.shownKey == key) = decide (r.header? "authorization" = some key) := by
    rw [Request.shownKey]
    cases r.header? "authorization" with
    | none => simpa using nonempty.symm
    | some shown =>
        rw [Bool.eq_iff_iff]
        simp
  rw [Request.admission, given, if_neg (by decide), shown]

theorem isAllowed_of_isPublic (isPublic : r.isPublic = .ok true) (given : Option String) :
    r.isAllowed given = true := by
  rw [Request.isAllowed_iff]
  cases given with
  | none => rfl
  | some key =>
      rw [Request.admission, isPublic]
      split <;> rfl

end

/-! ## The server that has no key -/

def withoutKey (s : Server) : Server := { s with settings := { s.settings with apiKey := none } }

end Server

def Exchange.withoutKey (x : Exchange) : Exchange := { x with server := x.server.withoutKey }

namespace Server

theorem consult_withoutKey (s : Server) (question : DocumentServer.Request) :
    s.withoutKey.consult question =
      ((s.consult question).1, (s.consult question).2.withoutKey) := rfl

theorem answerList_withoutKey (s : Server) (question : DocumentServer.Request) :
    (s.answerList question).withoutKey = s.withoutKey.answerList question := by
  simp only [answerList, consult_withoutKey]
  generalize s.consult question = consulted
  obtain ⟨outcome, t⟩ := consulted
  cases outcome with
  | done reply => cases reply <;> rfl
  | _ => rfl

section

variable [Addressing] {s : Server} {o : Occasion} {r : Request} {e : Endpoint} {key : String}

theorem issueLink_withoutKey (s : Server) (o : Occasion) (r : Request) (print : Print) :
    (s.issueLink o r print).withoutKey = s.withoutKey.issueLink o r print := by
  have same : s.withoutKey.downloads = s.downloads := rfl
  simp only [issueLink, same]
  cases s.downloads.issue o.now o.token print.payload Response.pdfType <;> rfl

theorem print_withoutKey (s : Server) (o : Occasion) (r : Request) (id : String)
    (format : AnswerFormat) (config : Page.Config) (rendering : Rendering) :
    (s.print o r id format config rendering).withoutKey =
      s.withoutKey.print o r id format config rendering := by
  simp only [print]
  split
  · cases format with
    | link => exact issueLink_withoutKey ..
    | _ => rfl
  · rfl

theorem answerRender_withoutKey (s : Server) (o : Occasion) (r : Request) (id : String) :
    (s.answerRender o r id).withoutKey = s.withoutKey.answerRender o r id := by
  simp only [answerRender]
  cases r.document with
  | error rejection => rfl
  | ok wanted =>
      have same : s.withoutKey.settings.page = s.settings.page := rfl
      simp only [produce, same]
      cases wanted.pageConfig s.settings.page with
      | error f => rfl
      | ok config =>
          simp only [consult_withoutKey]
          generalize s.consult (.render id wanted.props) = consulted
          obtain ⟨outcome, t⟩ := consulted
          cases outcome with
          | done reply =>
              cases reply with
              | rendered rendering => exact print_withoutKey ..
              | _ => rfl
          | _ => rfl

theorem serve_withoutKey (s : Server) (o : Occasion) (r : Request) (e : Endpoint) :
    (s.serve o r e).withoutKey = s.withoutKey.serve o r e := by
  cases e with
  | documents => exact answerList_withoutKey ..
  | refresh => exact answerList_withoutKey ..
  | render id => exact answerRender_withoutKey ..
  | download token =>
      have same : s.withoutKey.downloads = s.downloads := rfl
      simp only [serve, answerDownload, same]
      split <;> rfl
  | _ => rfl

/-- A request that may go on is answered as if there were no key. -/
theorem answer_withoutKey (allowed : r.isAllowed s.settings.apiKey = true) :
    (s.answer o r).withoutKey = s.withoutKey.answer o r := by
  have allowedToo : r.isAllowed s.withoutKey.settings.apiKey = true := rfl
  rw [answer_of_isAllowed allowed, answer_of_isAllowed allowedToo, dispatch, dispatch]
  cases r.route with
  | endpoint e => exact serve_withoutKey ..
  | _ => rfl

/-- If the guard cannot read the address of a request, nothing is done. The request would have led to no
endpoint anyway. -/
theorem answer_of_unreadable {f : Fault} (lawful : Addressing.Lawful)
    (isSet : s.settings.apiKey = some key) (nonempty : key ≠ "") (unreadable : r.addressPath = .error f) :
    (∀ e, r.route ≠ .endpoint e) ∧ s.answer o r = .plain s .internalError := by
  constructor
  · intro e leads
    have read := Request.addressPath_eq lawful (Request.isRooted_of_route leads)
    rw [unreadable] at read
    cases read
  · rw [answer, isSet, admission_eq nonempty, Request.isPublic, unreadable]
    rfl

end

/-- A server with a key and nothing in its folders. -/
def lockedServer : Server where
  settings := { apiKey := some "key" }
  bearings := { templates := ["templates"], static := ["static"], ttl := .ofSeconds 300 }
  session := .start ["templates"] .empty
  downloads := { ttl := .ofSeconds 300 }

/-- Asks for all documents, with the beginning of the key only. -/
def listingRequest : Request where
  method := "GET"
  scheme := "http"
  path := "/api/documents"
  query := ""
  headers := [("host", "localhost"), ("Authorization", "ke")]
  body := []
  receiver := "localhost"

/-- An occasion on which every print is empty. -/
def blankOccasion : Occasion where
  now := DownloadDesk.openingTime
  token := "ab"
  printer := fun _ => .ok []

/-- The same with all of the key. -/
def keyedRequest : Request :=
  { listingRequest with headers := [("host", "localhost"), ("AUTHORIZATION", "key")] }

end Server

/-- A framework that takes the host as it is given. -/
@[reducible]
def Addressing.hostAsGiven : Addressing where
  url r := r.protocol ++ "://" ++ (r.header? "host").getD r.receiver ++ r.path ++ r.querySuffix
  base := Request.baseUrl
  link := Request.downloadUrl

/-- Without the law a host with a slash in it would open the guard. -/
theorem Addressing.hostAsGiven_opens :
    @Request.isAllowed hostAsGiven
      { Server.listingRequest with headers := [("host", "x/static/")] } (some "key") = true := by
  decide

end DocumentServer.Web
