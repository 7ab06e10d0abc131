import DocumentServer.Download.Store

/-!
Calls on one store of downloads that overlap. Nothing comes between while the clock is read or the
lock is held, but anything may come between the two. So a run is a list of such steps in any order. An
event that does not apply leaves the desk as it is.
-/
namespace DocumentServer
open Calendar

namespace DownloadDesk

/-- What a call is for. An issue has drawn its token before it does anything else. -/
inductive Errand where
  | issue (token : String) (payload : Octets) (mimeType : String) (ttl : Option Duration)
  | consume (token : String)

/-- How far a call has come. -/
inductive Stage where
  | called
  /-- The clock has been read for the deadline, and the download is not in the store yet. -/
  | prepared (d : Download)
  /-- The download is out of the store, and the clock is still to be read. -/
  | taken (d : Download)
  | issued
  | refused (f : Fault)
  | consumed (found : Option Download)

structure Call where
  errand : Errand
  stage : Stage

/-- How far the removal of what is expired has come. -/
inductive Pruning where
  | called
  | timed (now : DateTime)
  | counted (count : Nat)

inductive Event where
  | call (errand : Errand)
  /-- A call reads the clock. -/
  | read (call : Nat) (now : DateTime)
  /-- A call takes the lock, works on the store and gives the lock back. -/
  | enter (call : Nat)
  | prune
  | readPruning (pruning : Nat) (now : DateTime)
  | enterPruning (pruning : Nat)

/-- An issue reads the clock before it comes to the store, and a consumer after it has been there. -/
def Call.read (store : DownloadStore) (now : DateTime) (call : Call) : Call :=
  match call.errand, call.stage with
  | .issue token payload mimeType ttl, .called =>
    match store.prepare now token payload mimeType ttl with
    | .ok d => { call with stage := .prepared d }
    | .error f => { call with stage := .refused f }
  | .consume _, .taken d => { call with stage := .consumed (DownloadStore.deliver now d) }
  | _, _ => call

/-- What a call does under the lock. A consumer that finds nothing is through with it. -/
def Call.enter (store : DownloadStore) (call : Call) : Call × DownloadStore :=
  match call.errand, call.stage with
  | .issue .., .prepared d => ({ call with stage := .issued }, store.insert d)
  | .consume token, .called =>
    let (found, rest) := store.take token
    match found with
    | some d => ({ call with stage := .taken d }, rest)
    | none => ({ call with stage := .consumed none }, rest)
  | _, _ => (call, store)

def Pruning.read (now : DateTime) : Pruning → Pruning
  | .called => .timed now
  | pruning => pruning

def Pruning.enter (store : DownloadStore) : Pruning → Pruning × DownloadStore
  | .timed now =>
    let (count, rest) := store.dropExpired now
    (.counted count, rest)
  | pruning => (pruning, store)

end DownloadDesk

structure DownloadDesk where
  store : DownloadStore
  /-- All calls so far, in the order in which they came. -/
  calls : List DownloadDesk.Call := []
  prunings : List DownloadDesk.Pruning := []

namespace DownloadDesk

def enter (s : DownloadDesk) (i : Nat) : DownloadDesk :=
  match s.calls[i]? with
  | some call =>
    let (call, store) := call.enter s.store
    { s with store, calls := s.calls.set i call }
  | none => s

def enterPruning (s : DownloadDesk) (i : Nat) : DownloadDesk :=
  match s.prunings[i]? with
  | some pruning =>
    let (pruning, store) := pruning.enter s.store
    { s with store, prunings := s.prunings.set i pruning }
  | none => s

def step (s : DownloadDesk) : Event → DownloadDesk
  | .call errand => { s with calls := s.calls ++ [{ errand, stage := .called }] }
  | .read i now => { s with calls := s.calls.modify i (·.read s.store now) }
  | .enter i => s.enter i
  | .prune => { s with prunings := s.prunings ++ [.called] }
  | .readPruning i now => { s with prunings := s.prunings.modify i (·.read now) }
  | .enterPruning i => s.enterPruning i

def run (s : DownloadDesk) (events : List Event) : DownloadDesk := events.foldl step s

/-- A desk with nothing in its store, where nobody has called yet. -/
def start (ttl : Duration) : DownloadDesk := { store := { ttl } }

end DownloadDesk
end DocumentServer
