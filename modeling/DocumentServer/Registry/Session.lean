import DocumentServer.Files.Listing
import DocumentServer.Registry.Rendering

/-!
Sessions: one registry with the rebuilds and the callers that share it. Each event is one step
between two points where others may go on, so a run is a list of events in any order. An event that
does not apply leaves the session as it is.
-/
namespace DocumentServer

inductive Request where
  | refresh
  | ensure
  | find (id : String)
  | findPath (path : Files.Path)
  | ids
  | entries
  | render (id : String) (props : List (Value × Value))

inductive Reply where
  | refreshed (index : Index)
  | ready
  | entry (entry : Option Entry)
  | ids (ids : List String)
  | entries (entries : List Entry)
  | rendered (rendering : Rendering)

inductive Outcome (α : Type) where
  | cancelled
  | failed (failure : Failure)
  | done (result : α)

/-- How far a rebuild has come. -/
inductive Progress where
  | scheduled
  /-- The files have been listed, or could not be, and none is being compiled yet. -/
  | listed (found : Except Fault (List Files.Path))
  /-- A file is being compiled, in the call of a number; others wait. -/
  | compiling (collected : Index) (call : Nat) (file : Files.Path) (rest : List Files.Path)
  /-- It has ended with the index that was live then, but its end is not yet noted. -/
  | ended (outcome : Outcome Index)
  | noted (outcome : Outcome Index)

structure Rebuild where
  generation : Nat
  progress : Progress := .scheduled

inductive Standing where
  | waiting (generation : Nat)
  | answered (outcome : Outcome Reply)

/-- What a caller waits for: the end of a rebuild, or of what stands behind a shield. -/
inductive Awaited where
  | rebuild (generation : Nat)
  | shield (inner : Awaited)

/-- A refresh puts a shield before the rebuild that it starts, and every other request one before
the rebuild in flight. -/
def Request.awaited (generation : Nat) : Request → Awaited
  | .refresh => .shield (.rebuild generation)
  | _ => .shield (.rebuild generation)

structure Caller where
  request : Request
  standing : Standing

structure Session where
  root : Files.Path
  tree : Files.Tree
  registry : Registry := {}
  rebuilds : List Rebuild := []
  /-- All callers so far, in the order in which they came. -/
  callers : List Caller := []
  /-- The files whose compilation has begun, in order. -/
  compiled : List Files.Path := []

inductive Event where
  | change (tree : Files.Tree)
  | call (request : Request)
  /-- The files are listed for a rebuild. -/
  | list (generation : Nat)
  /-- A rebuild begins with the first of its files. -/
  | proceed (generation : Nat)
  /-- The file that a rebuild waits for has been compiled, or could not be. -/
  | compiled (generation : Nat) (result : Except Failure Document)
  | cancelRebuild (generation : Nat)
  | note (generation : Nat)
  | resume (caller : Nat)
  | cancel (caller : Nat)

def Outcome.ofExcept : Except Failure α → Outcome α
  | .ok a => .done a
  | .error e => .failed e

def Outcome.isDone : Outcome α → Bool
  | .done _ => true
  | _ => false

namespace Progress

def outcome? : Progress → Option (Outcome Index)
  | .ended outcome => some outcome
  | .noted outcome => some outcome
  | _ => none

end Progress

namespace Session

def progress? (s : Session) (generation : Nat) : Option Progress :=
  (s.rebuilds.find? (·.generation == generation)).map (·.progress)

/-- What came of a rebuild, if it has ended. -/
def outcome? (s : Session) (generation : Nat) : Option (Outcome Index) :=
  (s.progress? generation).bind Progress.outcome?

def setProgress (s : Session) (generation : Nat) (progress : Progress) : Session :=
  { s with rebuilds := s.rebuilds.map fun rebuild =>
      if rebuild.generation == generation then { rebuild with progress } else rebuild }

/-! ## Callers -/

/-- What a request is answered with once the registry is populated. -/
def lookUp (s : Session) : Request → Outcome Reply
  | .refresh => .done (.refreshed s.registry.index)
  | .ensure => .done .ready
  | .find id => .done (.entry (s.registry.find id))
  | .findPath path => .ofExcept <|
    (s.registry.findPath s.tree path).map Reply.entry |>.mapError Failure.fault
  | .ids => .done (.ids s.registry.index.ids)
  | .entries => .done (.entries s.registry.index.entries)
  | .render id props => .ofExcept ((s.registry.render s.tree id props).map Reply.rendered)

/-- What a request is answered with when the rebuild it waits for has ended. Only a refresh answers
with the index of that moment. -/
def replyAfter (s : Session) (request : Request) : Outcome Index → Outcome Reply
  | .cancelled => .cancelled
  | .failed e => .failed e
  | .done index =>
    match request with
    | .refresh => .done (.refreshed index)
    | request => s.lookUp request

def addCaller (s : Session) (request : Request) (standing : Standing) : Session :=
  { s with callers := s.callers ++ [{ request, standing }] }

def startRebuild (s : Session) : Session :=
  { s with
    registry := s.registry.start
    rebuilds := s.rebuilds ++ [{ generation := s.registry.start.generation }] }

def startAndWait (s : Session) (request : Request) : Session :=
  s.startRebuild.addCaller request (.waiting s.registry.start.generation)

/-- Waits for a rebuild. One that has ended makes no caller wait. -/
def await (s : Session) (request : Request) (generation : Nat) : Session :=
  match s.outcome? generation with
  | some outcome => s.addCaller request (.answered (s.replyAfter request outcome))
  | none => s.addCaller request (.waiting generation)

/-- Starts a rebuild, unless one is in flight. -/
def ensureInFlight (s : Session) : Session :=
  if s.registry.inFlight.isNone then s.startRebuild else s

/-- What a caller is told that finds no rebuild to wait for. -/
def nothingInFlight : Failure := .fault ⟨.assertion, ""⟩

/-- Waits for the rebuild in flight. -/
def awaitInFlight (s : Session) (request : Request) : Session :=
  match s.registry.inFlight with
  | some generation => s.await request generation
  | none => s.addCaller request (.answered (.failed nothingInFlight))

/-- A refresh starts a rebuild of its own. All other requests share one, and need none once the
registry is populated. -/
def call (s : Session) (request : Request) : Session :=
  match request, s.registry.phase with
  | .refresh, _ => s.startAndWait .refresh
  | request, .populated => s.addCaller request (.answered (s.lookUp request))
  | request, _ => s.ensureInFlight.awaitInFlight request

def setStanding (s : Session) (caller : Nat) (standing : Standing) : Session :=
  { s with callers := s.callers.modify caller ({ · with standing }) }

/-- A waiting caller goes on after the end of its rebuild has been noted. -/
def resume (s : Session) (caller : Nat) : Session :=
  match s.callers[caller]? with
  | some { request, standing := .waiting generation } =>
    match s.progress? generation with
    | some (.noted outcome) => s.setStanding caller (.answered (s.replyAfter request outcome))
    | _ => s
  | _ => s

/-! ## Rebuilds -/

def endRebuild (s : Session) (generation : Nat) (outcome : Outcome Index) : Session :=
  s.setProgress generation (.ended outcome)

/-- Puts a collected index in place and ends its rebuild. -/
def complete (s : Session) (generation : Nat) (collected : Index) : Session :=
  let registry := s.registry.install collected
  { s with registry }.endRebuild generation (.done registry.index)

/-- Goes on with the next file, if there is one. -/
def advance (s : Session) (generation : Nat) (collected : Index) : List Files.Path → Session
  | [] => s.complete generation collected
  | file :: rest =>
    { s with compiled := s.compiled ++ [file] }.setProgress generation
      (.compiling collected s.compiled.length file rest)

/-- The files of the documents as they are now. -/
def listing (s : Session) : Except Fault (List Files.Path) :=
  (Files.listDocuments s.tree s.root).map fun files => files.map (s.root ++ ·)

def list (s : Session) (generation : Nat) : Session :=
  match s.progress? generation with
  | some .scheduled => s.setProgress generation (.listed s.listing)
  | _ => s

def proceed (s : Session) (generation : Nat) : Session :=
  match s.progress? generation with
  | some (.listed (.ok files)) => s.advance generation { generation } files
  | some (.listed (.error e)) => s.endRebuild generation (.failed (.fault e))
  | _ => s

/-- Collects the entry of a file that was compiled. -/
def collect (s : Session) (collected : Index) (file : Files.Path)
    (result : Except Failure Document) : Except Failure Index := do
  let document ← result
  let entry ← (Entry.ofDocument s.tree s.root file document).mapError .fault
  collected.add entry

def compile (s : Session) (generation : Nat) (result : Except Failure Document) : Session :=
  match s.progress? generation with
  | some (.compiling collected _ file rest) =>
    match s.collect collected file result with
    | .ok collected => s.advance generation collected rest
    | .error e => s.endRebuild generation (.failed e)
  | _ => s

def cancelRebuild (s : Session) (generation : Nat) : Session :=
  match s.progress? generation with
  | some .scheduled => s.endRebuild generation .cancelled
  | some (.listed _) => s.endRebuild generation .cancelled
  | some (.compiling ..) => s.endRebuild generation .cancelled
  | _ => s

def note (s : Session) (generation : Nat) : Session :=
  match s.progress? generation with
  | some (.ended outcome) =>
    { s with registry := s.registry.conclude generation outcome.isDone }.setProgress generation
      (.noted outcome)
  | _ => s

/-! ## Giving up -/

/-- Gives up what a caller waits for. A shield keeps that from the rebuild behind it. -/
def giveUp (s : Session) : Awaited → Session
  | .rebuild generation => s.cancelRebuild generation
  | .shield _ => s

/-- Gives up a waiting caller, and with it what it waits for. -/
def cancel (s : Session) (caller : Nat) : Session :=
  match s.callers[caller]? with
  | some { request, standing := .waiting generation } =>
    (s.giveUp (request.awaited generation)).setStanding caller (.answered .cancelled)
  | _ => s

/-! ## Runs -/

def step (s : Session) : Event → Session
  | .change tree => { s with tree }
  | .call request => s.call request
  | .list generation => s.list generation
  | .proceed generation => s.proceed generation
  | .compiled generation result => s.compile generation result
  | .cancelRebuild generation => s.cancelRebuild generation
  | .note generation => s.note generation
  | .resume caller => s.resume caller
  | .cancel caller => s.cancel caller

def run (s : Session) (events : List Event) : Session := events.foldl step s

def start (root : Files.Path) (tree : Files.Tree) : Session := { root, tree }

end Session
end DocumentServer
