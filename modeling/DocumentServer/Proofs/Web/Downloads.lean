import DocumentServer.Proofs.Download.Desk
import DocumentServer.Proofs.Web.Guard
import DocumentServer.Web.Traffic
import Mathlib.Data.List.Induction

/-!
What requests do to the store of downloads: a link puts a download there under the token that was
drawn, a request for a download throws away what has expired and takes one, and nothing else touches it.
Here a request does all of this at once. At a desk the same calls come one after the other, so that what
holds at every desk, whatever comes between, holds here as well.
-/
namespace DocumentServer.Web
open Calendar

namespace Server

variable {s : Server} {o : Occasion} {r : Request} {token : String} {d : Download}
  {turns : List Turn} {t : Turn}

/-- How an answer can change the store. -/
inductive Restocks (s : Server) (o : Occasion) (r : Request) : Exchange → Prop
  | same {x : Exchange} : x.server.downloads = s.downloads → Restocks s o r x
  | keep {x : Exchange} {payload : Octets} {d : Download} :
      s.downloads.prepare o.now o.token payload Response.pdfType none = .ok d → x.drawsToken = true →
      x.server.downloads = s.downloads.insert d → Restocks s o r x
  | fetch {x : Exchange} {token : String} : r.route = .endpoint (.download token) →
      x.server.downloads = ((s.downloads.dropExpired o.now).2.take token).2 → Restocks s o r x

theorem downloads_consult (s : Server) (question : DocumentServer.Request) :
    (s.consult question).2.downloads = s.downloads := rfl

theorem Restocks.of_downloads {t : Server} {x : Exchange} (restocks : Restocks t o r x)
    (same : t.downloads = s.downloads) : Restocks s o r x := by
  cases restocks with
  | same kept => exact .same (kept.trans same)
  | keep made draws kept => exact .keep (same ▸ made) draws (same ▸ kept)
  | fetch leads kept => exact .fetch leads (same ▸ kept)

theorem restocks_answerList (s : Server) (o : Occasion) (r : Request)
    (question : DocumentServer.Request) : Restocks s o r (s.answerList question) := by
  refine .same ?_
  rw [← downloads_consult s question, answerList]
  generalize s.consult question = consulted
  obtain ⟨outcome, t⟩ := consulted
  cases outcome with
  | done reply => cases reply <;> rfl
  | _ => rfl

theorem downloads_answerDownload (s : Server) (o : Occasion) (token : String) :
    (s.answerDownload o token).server.downloads =
      ((s.downloads.dropExpired o.now).2.take token).2 := by
  unfold answerDownload
  dsimp only
  split <;> rfl

/-! ## Fetching -/

theorem fetched?_of_route (leads : r.route = .endpoint (.download token)) :
    (Turn.request o r).fetched? = some token := by
  simp only [Turn.fetched?, leads]

theorem route_of_fetched? (fetches : (Turn.request o r).fetched? = some token) :
    r.route = .endpoint (.download token) := by
  simp only [Turn.fetched?] at fetches
  split at fetches
  · next leads =>
      cases fetches
      exact leads
  · cases fetches

/-- The clock has been read at the deadline or after it. -/
def Late (turns : List Turn) (d : Download) : Prop :=
  ∃ now ∈ turns.filterMap Turn.time?, d.deadline.instant ≤ now.instant

theorem Late.concat (late : Late turns d) (t : Turn) : Late (turns ++ [t]) d := by
  obtain ⟨now, read, past⟩ := late
  exact ⟨now, by simp [read], past⟩

/-! ## Answers -/

variable [Addressing]

theorem restocks_issueLink (s : Server) (o : Occasion) (r : Request) (print : Print) :
    Restocks s o r (s.issueLink o r print) := by
  unfold issueLink DownloadStore.issue
  cases made : s.downloads.prepare o.now o.token print.payload Response.pdfType none with
  | ok d => exact .keep made rfl rfl
  | error f => exact .same rfl

theorem restocks_print (s : Server) (o : Occasion) (r : Request) (id : String)
    (format : AnswerFormat) (config : Page.Config) (rendering : Rendering) :
    Restocks s o r (s.print o r id format config rendering) := by
  simp only [print]
  split
  · cases format with
    | link => exact restocks_issueLink ..
    | _ => exact .same rfl
  · exact .same rfl

theorem restocks_answerRender (s : Server) (o : Occasion) (r : Request) (id : String) :
    Restocks s o r (s.answerRender o r id) := by
  unfold answerRender
  cases r.document with
  | error rejection => exact .same rfl
  | ok wanted =>
      simp only [produce]
      cases wanted.pageConfig s.settings.page with
      | error f => exact .same rfl
      | ok config =>
          have kept := downloads_consult s (.render id wanted.props)
          generalize s.consult (.render id wanted.props) = consulted at kept
          obtain ⟨outcome, t⟩ := consulted
          cases outcome with
          | done reply =>
              cases reply with
              | rendered rendering => exact (restocks_print ..).of_downloads kept
              | _ => exact .same kept
          | _ => exact .same kept

theorem restocks_serve (s : Server) (o : Occasion) (r : Request) (e : Endpoint)
    (leads : r.route = .endpoint e) : Restocks s o r (s.serve o r e) := by
  cases e with
  | documents => exact restocks_answerList ..
  | refresh => exact restocks_answerList ..
  | render id => exact restocks_answerRender ..
  | download token =>
      refine .fetch leads ?_
      simp only [serve, answerDownload]
      split <;> rfl
  | _ => exact .same rfl

theorem restocks_answer (s : Server) (o : Occasion) (r : Request) :
    Restocks s o r (s.answer o r) := by
  rcases answer_eq s o r with ⟨_, same⟩ | ⟨_, response, _, told⟩
  · rw [same, dispatch]
    split
    · next e leads => exact restocks_serve s o r e leads
    all_goals exact .same rfl
  · rw [told]
    exact .same rfl

/-! ## Runs -/

theorem run_append (s : Server) (first second : List Turn) :
    s.run (first ++ second) = (s.run first).run second := List.foldl_append

theorem run_concat (s : Server) (turns : List Turn) (t : Turn) :
    s.run (turns ++ [t]) = (s.run turns).turn t := by
  rw [run_append]
  rfl

theorem drawn_append (s : Server) (first second : List Turn) :
    s.drawn (first ++ second) = s.drawn first ++ (s.run first).drawn second := by
  induction first generalizing s with
  | nil => rfl
  | cons t rest ih =>
      rw [List.cons_append, drawn, drawn, ih, List.append_assoc]
      rfl

theorem drawn_concat (s : Server) (turns : List Turn) (t : Turn) :
    s.drawn (turns ++ [t]) = s.drawn turns ++ ((s.run turns).drawn? t).toList := by
  rw [drawn_append, drawn, drawn, List.append_nil]

/-- How a turn can change the store. -/
theorem turn_cases (s : Server) (t : Turn) :
    (s.turn t).downloads = s.downloads ∨
      (∃ d, s.drawn? t = some d.token ∧ (s.turn t).downloads = s.downloads.insert d) ∨
        ∃ token now, t.fetched? = some token ∧ t.time? = some now ∧
          (s.turn t).downloads = ((s.downloads.dropExpired now).2.take token).2 := by
  cases t with
  | change tree => exact .inl rfl
  | request o r =>
      have restocks := restocks_answer s o r
      simp only [turn, drawn?]
      generalize s.answer o r = x at restocks
      cases restocks with
      | same kept => exact .inl kept
      | keep made draws kept =>
          have drawn := (DownloadStore.prepare_eq_ok made).1
          exact .inr (.inl ⟨_, by rw [draws, if_pos rfl, drawn], kept⟩)
      | fetch leads kept => exact .inr (.inr ⟨_, o.now, fetched?_of_route leads, rfl, kept⟩)

/-! ## At a desk -/

/-- What a turn does to the store is done by calls at a desk that nothing comes between: one issue, or a
pruning and then a consumer. -/
theorem turn_at_desk (s : Server) (t : Turn) {desk : DownloadDesk} (same : desk.store = s.downloads) :
    ∃ events, (desk.run events).store = (s.turn t).downloads := by
  cases t with
  | change tree => exact ⟨[], same⟩
  | request o r =>
      have restocks := restocks_answer s o r
      simp only [turn]
      generalize s.answer o r = x at restocks ⊢
      cases restocks with
      | same kept => exact ⟨[], same.trans kept.symm⟩
      | @keep payload d made _ kept =>
          refine ⟨_, (desk.run_issue o.now o.token payload Response.pdfType none).trans ?_⟩
          rw [same, DownloadStore.issue, made, kept]
          rfl
      | @fetch token _ kept =>
          let pruned := desk.run [.prune, .readPruning desk.prunings.length o.now,
            .enterPruning desk.prunings.length]
          have rest : pruned.store = (s.downloads.dropExpired o.now).2 := same ▸ desk.run_prune o.now
          have consumed := (pruned.run_consume o.now token).2
          refine ⟨_, (congrArg _ (desk.run_append _ _)).trans (consumed.trans ?_)⟩
          rw [rest, kept]
          rfl

/-- Whatever a server does to its store can be done at a desk. -/
theorem run_at_desk (s : Server) (turns : List Turn) {desk : DownloadDesk}
    (same : desk.store = s.downloads) : ∃ events, (desk.run events).store = (s.run turns).downloads := by
  induction turns generalizing s desk with
  | nil => exact ⟨[], same⟩
  | cons t rest ih =>
      obtain ⟨first, turned⟩ := turn_at_desk s t same
      obtain ⟨second, ran⟩ := ih (s.turn t) turned
      refine ⟨first ++ second, ?_⟩
      rw [DownloadDesk.run_append, ran]
      rfl

theorem distinct_run (distinct : s.downloads.Distinct) (turns : List Turn) :
    (s.run turns).downloads.Distinct := by
  let desk : DownloadDesk := { store := s.downloads }
  obtain ⟨events, ran⟩ := run_at_desk s turns (rfl : desk.store = s.downloads)
  rw [← ran]
  exact DownloadDesk.distinct_run distinct events

theorem ttl_run (s : Server) (turns : List Turn) :
    (s.run turns).downloads.ttl = s.downloads.ttl := by
  let desk : DownloadDesk := { store := s.downloads }
  obtain ⟨events, ran⟩ := run_at_desk s turns (rfl : desk.store = s.downloads)
  rw [← ran]
  exact desk.ttl_run events

/-! ## One token -/

theorem answer_download (lawful : Addressing.Lawful) (leads : r.route = .endpoint (.download token))
    (s : Server) (o : Occasion) : s.answer o r = s.answerDownload o token := by
  have isPublic : r.isPublic = .ok true := Request.isPublic_of_route lawful leads
  rw [answer_of_isAllowed (isAllowed_of_isPublic isPublic _), dispatch, leads]
  rfl

/-- A request for a download takes it away. -/
theorem find?_turn_fetched (lawful : Addressing.Lawful) (fetches : t.fetched? = some token) :
    (s.turn t).downloads.find? token = none := by
  cases t with
  | change tree => cases fetches
  | request o r =>
      rw [turn, answer_download lawful (route_of_fetched? fetches), downloads_answerDownload,
        DownloadStore.find?_take, if_pos rfl]

/-- Other turns leave a download where it is, or throw it away once it has expired. -/
theorem find?_turn_other (distinct : s.downloads.Distinct) (other : t.fetched? ≠ some token)
    (undrawn : s.drawn? t ≠ some token) :
    (s.turn t).downloads.find? token = s.downloads.find? token ∨
      ∃ now, t.time? = some now ∧ (s.turn t).downloads.find? token =
        (s.downloads.find? token).filter fun d => !d.isExpired now := by
  rcases turn_cases s t with kept | ⟨d, draws, kept⟩ | ⟨fetched, now, fetches, read, kept⟩
  · exact .inl (by rw [kept])
  · refine .inl ?_
    rw [kept, DownloadStore.find?_insert, if_neg]
    rintro rfl
    exact undrawn draws
  · refine .inr ⟨now, read, ?_⟩
    rw [kept, DownloadStore.find?_take, if_neg, DownloadStore.find?_dropExpired distinct]
    rintro rfl
    exact other fetches

/-- Under a token that is not drawn no download comes into the store. -/
theorem find?_turn_absent (distinct : s.downloads.Distinct)
    (absent : s.downloads.find? token = none) (undrawn : s.drawn? t ≠ some token) :
    (s.turn t).downloads.find? token = none := by
  rcases turn_cases s t with kept | ⟨d, draws, kept⟩ | ⟨fetched, now, fetches, read, kept⟩
  · rw [kept, absent]
  · rw [kept, DownloadStore.find?_insert, if_neg, absent]
    rintro rfl
    exact undrawn draws
  · rw [kept, DownloadStore.find?_take, DownloadStore.find?_dropExpired distinct, absent]
    split <;> rfl

/-- A download stays in the store until it is fetched, or until it may be thrown away. Its token is
never used for another one. -/
theorem find?_run (lawful : Addressing.Lawful) (distinct : s.downloads.Distinct)
    (kept : s.downloads.find? d.token = some d) (undrawn : d.token ∉ s.drawn turns) :
    (s.run turns).downloads.find? d.token = some d ∧ d.token ∉ turns.filterMap Turn.fetched? ∨
      (s.run turns).downloads.find? d.token = none ∧
        (d.token ∈ turns.filterMap Turn.fetched? ∨ Late turns d) := by
  induction turns using List.reverseRecOn with
  | nil => exact .inl ⟨kept, List.not_mem_nil⟩
  | append_singleton past t ih =>
      rw [drawn_concat, List.mem_append, not_or, Option.mem_toList] at undrawn
      rw [run_concat, List.filterMap_append, List.mem_append, List.mem_filterMap (l := [t])]
      have last : (∃ a ∈ [t], a.fetched? = some d.token) ↔ t.fetched? = some d.token := by simp
      rw [last]
      by_cases fetches : t.fetched? = some d.token
      · exact .inr ⟨find?_turn_fetched lawful fetches, .inl (.inr fetches)⟩
      have turned := find?_turn_other (distinct_run distinct past) fetches undrawn.2
      rcases ih undrawn.1 with ⟨there, unfetched⟩ | ⟨gone, why⟩
      · rw [there] at turned
        rcases turned with same | ⟨now, read, turned⟩
        · exact .inl ⟨same, by simp [unfetched, fetches]⟩
        by_cases expired : d.isExpired now = true
        · refine .inr ⟨by rw [turned]; simp [expired], .inr ⟨now, by simp [read], ?_⟩⟩
          exact (DownloadStore.isExpired_iff d now).1 expired
        · exact .inl ⟨by rw [turned]; simp [expired], by simp [unfetched, fetches]⟩
      · rw [gone] at turned
        refine .inr ⟨?_, why.imp .inl (·.concat t)⟩
        rcases turned with same | ⟨_, _, same⟩
        · exact same
        · simpa using same

end Server
end DocumentServer.Web
