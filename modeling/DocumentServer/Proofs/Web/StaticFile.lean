import DocumentServer.Proofs.Files.Faults
import DocumentServer.Proofs.Web.Guard

/-!
When the server fails over a static file: exactly where the search for it breaks off. What is found can be
read, and there is an answer for what is forbidden or not found.
-/
namespace DocumentServer.Web.Server

variable {s : Server} {o : Occasion} {r : Request} {relative : String}

/-- Nothing is asked of anyone who wants a static file. -/
theorem answer_static (leads : r.route = .endpoint (.staticFile relative)) :
    s.answer o r = .plain s (s.answerStatic relative) := by
  have isPublic : r.isPublic = .ok true :=
    Request.isPublic_of_route Addressing.standard_lawful leads
  rw [answer_of_isAllowed (isAllowed_of_isPublic isPublic _), dispatch, leads]
  rfl

theorem status_answerStatic (s : Server) (relative : String) :
    (s.answerStatic relative).status = 500 ↔
      ∃ f, Files.Trips s.tree s.bearings.static relative f := by
  simp only [← Files.resolveStatic_eq_fault, answerStatic]
  cases found : Files.resolveStatic s.tree s.bearings.static relative with
  | ok place =>
      obtain ⟨content, read⟩ := Files.readOctets_of_served found
      simp [fileResponse, read]
  | error e =>
      cases e <;> simp [Response.forbidden, Response.notFound, Response.internalError, Response.refusal,
        Response.ofJson]

/-- A server with the folder of static files that has a link to itself in it. -/
def loopedServer : Server :=
  { lockedServer with session := .start ["templates"] Files.loopedTree }

/-- Asks for a static file. -/
def staticRequest (relative : String) : Request :=
  { listingRequest with path := "/static/" ++ relative, headers := [] }

end DocumentServer.Web.Server
