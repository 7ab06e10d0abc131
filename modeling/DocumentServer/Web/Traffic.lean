import DocumentServer.Web.Answer

/-!
Traffic: a server answers requests one after another, each as a whole and with one reading of the clock,
and between them the files may change.
-/
namespace DocumentServer.Web

inductive Turn where
  | request (o : Occasion) (r : Request)
  | change (tree : Files.Tree)

namespace Turn

/-- When a request is answered. -/
def time? : Turn → Option Calendar.DateTime
  | .request o _ => some o.now
  | .change _ => none

/-- The token of the download that a request is for. -/
def fetched? : Turn → Option String
  | .request _ r =>
    match r.route with
    | .endpoint (.download token) => some token
    | _ => none
  | .change _ => none

end Turn

namespace Server

def turn [Addressing] (s : Server) : Turn → Server
  | .request o r => (s.answer o r).server
  | .change tree => s.withTree tree

def run [Addressing] (s : Server) (turns : List Turn) : Server := turns.foldl turn s

/-- The token that is drawn in a turn. -/
def drawn? [Addressing] (s : Server) : Turn → Option String
  | .request o r => if (s.answer o r).drawsToken then some o.token else none
  | .change _ => none

/-- All tokens that are drawn in a run, in order. -/
def drawn [Addressing] (s : Server) : List Turn → List String
  | [] => []
  | t :: rest => (s.drawn? t).toList ++ (s.turn t).drawn rest

end Server

/-- An address for a path of a server leads a request there, whatever host it names. -/
def Request.Gets (g : Request) (origin url : String) : Prop :=
  g.method = "GET" ∧
    ∃ target, url = origin ++ target ∧ g.path = Percent.decode (splitTarget target).1

end DocumentServer.Web
