import DocumentServer.Download.Store
import DocumentServer.Page.Browser
import DocumentServer.Registry.Schedule
import DocumentServer.Settings.Basic
import DocumentServer.Web.Request
import DocumentServer.Web.Response

/-!
The state of a server, and what one request leads to. The clock, tokens and the printer belong to
the occasion of a request and not to the state.
-/
namespace DocumentServer.Web

structure Server where
  settings : Settings
  bearings : Settings.Bearings
  session : Session
  downloads : DownloadStore

/-- What a request meets. -/
structure Occasion where
  now : Calendar.DateTime
  /-- A token that has not been given out yet. -/
  token : String
  printer : Page.Printer

/-- A response, the state after it, and what was done on the way. -/
structure Exchange where
  response : Response
  server : Server
  /-- Jobs that were handed to the printer, in order. -/
  printed : List Page.PrintJob := []
  drawsToken : Bool := false

namespace Server

def compiler (s : Server) : Compiler :=
  .ofDocuments s.bearings.templates s.settings.rewritesStaticUrls

/-- A server that has not yet looked at its templates. -/
def start (settings : Settings) (surroundings : Settings.Surroundings) : Except Fault Server := do
  let bearings ← settings.bearings surroundings
  return { settings, bearings, session := .start bearings.templates surroundings.tree,
           downloads := { ttl := bearings.ttl } }

/-- The files have changed. -/
def withTree (s : Server) (tree : Files.Tree) : Server :=
  { s with session := s.session.step (.change tree) }

def tree (s : Server) : Files.Tree := s.session.tree

/-- Asks the registry and waits for the answer. -/
def consult (s : Server) (request : DocumentServer.Request) : Outcome Reply × Server :=
  let (outcome, session) := s.session.ask s.compiler request
  (outcome, { s with session })

end Server

namespace Exchange

def plain (server : Server) (response : Response) : Exchange := { response, server }

/-- The answer to an outcome that is not the one hoped for. -/
def failed (server : Server) : Outcome Reply → Exchange
  | .failed failure => plain server (.ofFailure failure)
  | _ => plain server .internalError

end Exchange
end DocumentServer.Web
