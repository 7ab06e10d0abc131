import DocumentServer.Proofs.Web.Delivery
import DocumentServer.Proofs.Web.DocumentRequest

/-!
What a request for a document leaves behind. Whatever fails on the way, nothing is kept for a download;
only an answer that gives a link keeps one. The printer is asked for one page at most, which is the one
that the document made, on the page that the request and the settings tell.
-/
namespace DocumentServer.Web
open Calendar

namespace Response

@[simp] theorem status_ofJson (status : Nat) (content : Json) :
    (ofJson status content).status = status := rfl

theorem invalidRequest_refuses (problems : List Json) : (invalidRequest problems).status ≠ 200 := by
  unfold invalidRequest
  dsimp only
  split <;> simp [internalError, refusal]

theorem ofFailure_refuses (failure : Failure) : (ofFailure failure).status ≠ 200 := by
  cases failure with
  | fault f =>
      simp only [ofFailure]
      split
      · exact invalidRequest_refuses _
      · simp [internalError, refusal]
  | _ => simp [ofFailure, refusal, ofDetail]

end Response

theorem Rejection.response_refuses (rejection : Rejection) : rejection.response.status ≠ 200 := by
  cases rejection with
  | issues found => exact Response.invalidRequest_refuses _
  | malformed reason position => exact Response.invalidRequest_refuses _
  | unreadable => simp [response, Response.refusal]
  | unshowable => simp [response, Response.internalError, Response.refusal]

theorem Exchange.failed_refuses (s : Server) (outcome : Outcome Reply) :
    (failed s outcome).response.status ≠ 200 := by
  cases outcome with
  | failed failure => exact Response.ofFailure_refuses failure
  | _ => simp [failed, plain, Response.internalError, Response.refusal]

theorem Exchange.failed_server (s : Server) (outcome : Outcome Reply) :
    (failed s outcome).server = s ∧ (failed s outcome).printed = [] := by
  cases outcome <;> exact ⟨rfl, rfl⟩

namespace Server

theorem rejected_refuses [Addressing] (r : Request) (rejection : Rejection) :
    (rejected r rejection).status ≠ 200 := by
  have refuses := rejection.response_refuses
  unfold rejected
  cases r.addressPath with
  | ok path => exact refuses
  | error f =>
      dsimp only
      split
      · simp [Response.internalError, Response.refusal]
      · exact refuses

variable {s : Server} {o : Occasion} {r : Request} {id : String} {x : Exchange}

/-! ## How far a request gets -/

/-- The page that a request is printed on. -/
def pageFor (s : Server) (wanted : DocumentRequest) : Page.Config where
  size := wanted.size.getD s.settings.page.size
  orientation := wanted.orientation.getD s.settings.page.orientation

/-- A request asks for a document that the server can render. -/
structure Renders (s : Server) (r : Request) (id : String) (wanted : DocumentRequest)
    (rendering : Rendering) (after : Server) : Prop where
  asks : r.document = .ok wanted
  rendered : s.consult (.render id wanted.props) = (.done (.rendered rendering), after)

theorem Renders.downloads {wanted : DocumentRequest} {rendering : Rendering} {after : Server}
    (renders : s.Renders r id wanted rendering after) : after.downloads = s.downloads := by
  rw [← downloads_consult s (.render id wanted.props), renders.rendered]

/-- An answer that gives a link to what it has printed. -/
def Links (r : Request) (x : Exchange) : Prop :=
  x.response.status = 200 ∧ ∃ wanted, r.document = .ok wanted ∧ wanted.format = .link

/-- One download more is in the store, the last one, under a token. -/
def Gains (token : String) (before after : DownloadStore) : Prop :=
  ∃ d, d.token = token ∧
    after = { before with downloads := before.downloads ++ [(token, d)] }

theorem gains_insert {store : DownloadStore} {d : Download} (unused : store.find? d.token = none) :
    Gains d.token store (store.insert d) := by
  refine ⟨d, rfl, ?_⟩
  rw [DownloadStore.insert,
    Association.put_of_absent (Association.get?_eq_none_iff.1 unused)]

section

variable [Addressing]

/-- What is printed for a request. -/
def jobFor (s : Server) (r : Request) (wanted : DocumentRequest) (rendering : Rendering) :
    Page.PrintJob where
  base := Addressing.base r
  html := rendering.markup
  config := s.pageFor wanted

/-- The stages at which a request for a document can end. -/
inductive Ends (s : Server) (o : Occasion) (r : Request) (id : String) : Exchange → Prop
  | refused {rejection : Rejection} : r.document = .error rejection →
      Ends s o r id (.plain s (rejected r rejection))
  | unrendered {wanted : DocumentRequest} {outcome : Outcome Reply} {after : Server} :
      r.document = .ok wanted → s.consult (.render id wanted.props) = (outcome, after) →
      Ends s o r id (.failed after outcome)
  | unprinted {wanted : DocumentRequest} {rendering : Rendering} {after : Server}
      {failure : Failure} : s.Renders r id wanted rendering after →
      o.printer (s.jobFor r wanted rendering) = .error failure →
      Ends s o r id
        { response := .ofFailure failure, server := after,
          printed := [s.jobFor r wanted rendering] }
  | delivered {wanted : DocumentRequest} {rendering : Rendering} {after : Server}
      {payload : Octets} : s.Renders r id wanted rendering after →
      o.printer (s.jobFor r wanted rendering) = .ok payload →
      Ends s o r id
        (after.deliver o r ⟨id, s.jobFor r wanted rendering, payload⟩ wanted.format)

theorem ends_print {wanted : DocumentRequest} {rendering : Rendering} {after : Server}
    (renders : s.Renders r id wanted rendering after) (o : Occasion) :
    Ends s o r id (after.print o r id wanted.format (s.pageFor wanted) rendering) := by
  have job : Page.PrintJob.mk (Addressing.base r) rendering.markup (s.pageFor wanted) =
      s.jobFor r wanted rendering := rfl
  simp only [print, job]
  cases printed : o.printer (s.jobFor r wanted rendering) with
  | error failure => exact .unprinted renders printed
  | ok payload => exact .delivered renders printed

theorem ends_answerRender (s : Server) (o : Occasion) (r : Request) (id : String) :
    Ends s o r id (s.answerRender o r id) := by
  unfold answerRender
  cases asks : r.document with
  | error rejection => exact .refused asks
  | ok wanted =>
      simp only [produce, DocumentRequest.pageConfig_accepted]
      cases consulted : s.consult (.render id wanted.props) with
      | mk outcome after =>
          rcases outcome with _ | failure | reply
          · exact .unrendered asks consulted
          · exact .unrendered asks consulted
          cases reply with
          | rendered rendering => exact ends_print ⟨asks, consulted⟩ o
          | _ => exact .unrendered asks consulted

/-! ## What is kept -/

/-- Where an address can be made, a link is given and a download kept, or neither. -/
theorem issueLink_cases (s : Server) (print : Print)
    (located : ∃ url, Addressing.link r o.token = .ok url) :
    (∃ d, d.token = o.token ∧ (s.issueLink o r print).response.status = 200 ∧
        (s.issueLink o r print).server.downloads = s.downloads.insert d) ∨
      (s.issueLink o r print).response.status ≠ 200 ∧
        (s.issueLink o r print).server.downloads = s.downloads := by
  unfold issueLink DownloadStore.issue
  cases made : s.downloads.prepare o.now o.token print.payload Response.pdfType none with
  | ok d =>
      obtain ⟨url, located⟩ := located
      refine .inl ⟨d, (DownloadStore.prepare_eq_ok made).1.symm, ?_, rfl⟩
      simp only [Except.map, linkResponse, located, Response.ofJson]
  | error f => exact .inr ⟨Response.ofFailure_refuses _, rfl⟩

/-- Where no address can be made, there is only an error, but what was printed has been kept. -/
theorem issueLink_of_unlocated {f : Fault} (s : Server) (print : Print)
    (unlocated : Addressing.link r o.token = .error f) :
    (s.issueLink o r print).response.status ≠ 200 ∧
      ∀ downloads, s.downloads.issue o.now o.token print.payload Response.pdfType = .ok downloads →
        s.issueLink o r print =
          { response := .internalError, server := { s with downloads }, printed := [print.job],
            drawsToken := true } := by
  have told : s.linkResponse o r print = .internalError := by rw [linkResponse, unlocated]
  rw [issueLink]
  cases s.downloads.issue o.now o.token print.payload Response.pdfType with
  | ok downloads => simp [told, Response.internalError, Response.refusal]
  | error f => exact ⟨Response.ofFailure_refuses _, by simp⟩

/-- A download is kept exactly where a link is given. -/
theorem Ends.keeps (ends : Ends s o r id x) (located : ∃ url, Addressing.link r o.token = .ok url) :
    (Links r x → ∃ d, d.token = o.token ∧ x.server.downloads = s.downloads.insert d) ∧
      (¬Links r x → x.server.downloads = s.downloads) := by
  cases ends with
  | refused asks => exact ⟨fun links => absurd links.1 (rejected_refuses _ _), fun _ => rfl⟩
  | @unrendered wanted outcome after asks consulted =>
      refine ⟨fun links => absurd links.1 (Exchange.failed_refuses _ _), fun _ => ?_⟩
      rw [(Exchange.failed_server after outcome).1,
        ← downloads_consult s (.render id wanted.props), consulted]
  | unprinted renders printed =>
      exact ⟨fun links => absurd links.1 (Response.ofFailure_refuses _), fun _ => renders.downloads⟩
  | @delivered wanted rendering after payload renders printed =>
      have other : wanted.format ≠ .link → ∀ x, ¬Links r x := by
        rintro differs x ⟨_, asked, asks, link⟩
        rw [renders.asks] at asks
        cases asks
        exact differs link
      cases format : wanted.format with
      | pdf =>
          exact ⟨fun links => absurd links (other (by simp [format]) _), fun _ => renders.downloads⟩
      | base64 =>
          exact ⟨fun links => absurd links (other (by simp [format]) _), fun _ => renders.downloads⟩
      | link =>
          rw [deliver, ← renders.downloads]
          rcases issueLink_cases after ⟨id, s.jobFor r wanted rendering, payload⟩ located with
            ⟨d, drawn, told, kept⟩ | ⟨refused, same⟩
          · refine ⟨fun _ => ?_, fun differs => absurd ⟨told, wanted, renders.asks, format⟩ differs⟩
            exact ⟨d, drawn, kept⟩
          · exact ⟨fun links => absurd links.1 refused, fun _ => same⟩

/-- A token that has never been drawn has no download. -/
theorem find?_undrawn {token : String} {past : List Turn} (distinct : s.downloads.Distinct)
    (unused : s.downloads.find? token = none) (fresh : token ∉ s.drawn past) :
    (s.run past).downloads.find? token = none := by
  induction past using List.reverseRecOn with
  | nil => exact unused
  | append_singleton past t ih =>
      rw [drawn_concat, List.mem_append, not_or, Option.mem_toList] at fresh
      rw [run_concat]
      exact find?_turn_absent (distinct_run distinct past) (ih fresh.1) fresh.2

/-! ## What is printed -/

theorem printed_deliver (s : Server) (o : Occasion) (r : Request) (print : Print)
    (format : AnswerFormat) : (s.deliver o r print format).printed = [print.job] := by
  cases format with
  | link =>
      simp only [deliver, issueLink]
      split <;> rfl
  | _ => rfl

/-- Nothing is printed before there is a document, and then nothing but the document. -/
theorem Ends.printed (ends : Ends s o r id x) :
    x.printed = [] ∨ ∃ wanted rendering after, s.Renders r id wanted rendering after ∧
      x.printed = [s.jobFor r wanted rendering] := by
  cases ends with
  | refused asks => exact .inl rfl
  | unrendered asks consulted => exact .inl (Exchange.failed_server _ _).2
  | unprinted renders printed => exact .inr ⟨_, _, _, renders, rfl⟩
  | delivered renders printed =>
      exact .inr ⟨_, _, _, renders, printed_deliver ..⟩

theorem printed_print (s : Server) (o : Occasion) (r : Request) (id : String)
    (format : AnswerFormat) (config : Page.Config) (rendering : Rendering) :
    (s.print o r id format config rendering).printed =
      [⟨Addressing.base r, rendering.markup, config⟩] := by
  simp only [print]
  split
  · exact printed_deliver ..
  · rfl

theorem print_printer {printer : Page.Printer} {format : AnswerFormat} {config : Page.Config}
    {rendering : Rendering}
    (alike : ∀ job ∈ (s.print o r id format config rendering).printed,
      printer job = o.printer job) :
    s.print { o with printer } r id format config rendering =
      s.print o r id format config rendering := by
  rw [printed_print, List.forall_mem_singleton] at alike
  simp only [print, alike]
  cases o.printer ⟨Addressing.base r, rendering.markup, config⟩ with
  | error failure => rfl
  | ok payload => cases format <;> rfl

/-- Nothing of the printer matters but what it makes of what is printed. -/
theorem answerRender_printer {printer : Page.Printer}
    (alike : ∀ job ∈ (s.answerRender o r id).printed, printer job = o.printer job) :
    s.answerRender { o with printer } r id = s.answerRender o r id := by
  unfold answerRender at alike ⊢
  cases asks : r.document with
  | error rejection => rfl
  | ok wanted =>
      simp only [asks, produce, DocumentRequest.pageConfig_accepted] at alike ⊢
      generalize s.consult (.render id wanted.props) = consulted at alike ⊢
      obtain ⟨outcome, after⟩ := consulted
      rcases outcome with _ | failure | reply
      · rfl
      · rfl
      cases reply with
      | rendered rendering => exact print_printer alike
      | _ => rfl

end

theorem linkRequest_links :
    Links linkRequest (blankServer.answer printingOccasion linkRequest) := by
  obtain ⟨after, print, kept, _, answered⟩ := blankServer_prints.answer
  let deadline : DateTime :=
    ⟨printingOccasion.now.date, ⟨300 * microsPerSecond, by decide⟩, some .utc⟩
  have later : printingOccasion.now.add? after.downloads.ttl = some deadline := by
    rw [kept]
    rfl
  have linked := issueLink_of_deadline linkRequest print later
  have told : (blankServer.answer printingOccasion linkRequest).response.status = 200 := by
    simp only [answered, deliver, linked, Response.status_ofJson]
  exact ⟨told, _, linkRequest_asks, rfl⟩

end Server
end DocumentServer.Web
