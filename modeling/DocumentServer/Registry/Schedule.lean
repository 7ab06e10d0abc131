import DocumentServer.Registry.Session

/-!
Schedules: letting everything in a session go on until nothing can. A compiler answers a numbered
call, or holds it back.
-/
namespace DocumentServer

/-- What comes of compiling a file in the call of a number, if the call has ended. -/
abbrev Compiler := Files.Tree → Nat → Files.Path → Option (Except Failure Document)

/-- The compiler of documents, which holds no call back. -/
def Compiler.ofDocuments (root : Files.Path) (rewrites : Bool) : Compiler :=
  fun tree _ file => some (Document.compile tree root rewrites file)

/-- How many files a rebuild has yet to compile. -/
def Progress.remaining : Progress → Nat
  | .compiling _ _ _ rest => rest.length + 1
  | _ => 0

namespace Session

/-- Compiles at most a number of files of a rebuild, until a call is held back. -/
def compileFiles (compiler : Compiler) (generation : Nat) : Nat → Session → Session
  | 0, s => s
  | steps + 1, s =>
    match s.progress? generation with
    | some (.compiling _ call file _) =>
      match compiler s.tree call file with
      | some result => compileFiles compiler generation steps (s.step (.compiled generation result))
      | none => s
    | _ => s

/-- Lets one rebuild go on as far as it can. -/
def settleRebuild (compiler : Compiler) (s : Session) (generation : Nat) : Session :=
  let s := (s.step (.list generation)).step (.proceed generation)
  let remaining := ((s.progress? generation).map Progress.remaining).getD 0
  (compileFiles compiler generation remaining s).step (.note generation)

def generations (s : Session) : List Nat := s.rebuilds.map (·.generation)

/-- Lets all rebuilds go on, and then all callers whose rebuilds have ended. -/
def settle (compiler : Compiler) (s : Session) : Session :=
  let s := s.generations.foldl (settleRebuild compiler) s
  (List.range s.callers.length).foldl (fun s caller => s.step (.resume caller)) s

/-- What became of the caller that came last. -/
def lastOutcome (s : Session) : Outcome Reply :=
  match s.callers.getLast? with
  | some { standing := .answered outcome, .. } => outcome
  | _ => .cancelled

/-- Asks a question and waits for the answer. -/
def ask (compiler : Compiler) (s : Session) (request : Request) : Outcome Reply × Session :=
  let s := (s.step (.call request)).settle compiler
  (s.lastOutcome, s)

/-- Gives up every caller and every rebuild. -/
def shutDown (s : Session) : Session :=
  let s := (List.range s.callers.length).foldl (fun s caller => s.step (.cancel caller)) s
  s.generations.foldl (fun s generation => s.step (.cancelRebuild generation)) s

end Session
end DocumentServer
