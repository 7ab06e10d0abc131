import DocumentServer.Association
import DocumentServer.Calendar.DateTime
import DocumentServer.Calendar.Iso
import DocumentServer.Fault
import DocumentServer.Text.Utf8
import DocumentServer.Text.Quoted

/-!
The store of downloads: payloads that wait to be fetched once, each under its token and only until
its deadline. `insert`, `take` and `dropExpired` are the steps that nothing can come between; the
clock is read outside of them.
-/
namespace DocumentServer
open Calendar

structure Download where
  token : String
  payload : Octets
  mimeType : String
  deadline : DateTime

namespace Download

def isExpired (d : Download) (now : DateTime) : Bool := d.deadline.instant ≤ now.instant

/-- A text for logs. It shows no more than the beginning of the token. -/
def render (d : Download) : String :=
  let start := String.ofList (d.token.toList.take 6)
  let mimeType := Text.quote d.mimeType
  s!"DownloadEntry(token={start}..., mime_type={mimeType}, size={d.payload.length}, expires_at={Iso.dateTime d.deadline})"

end Download

structure DownloadStore where
  /-- How long a download can be fetched, unless its issuer says otherwise. -/
  ttl : Duration
  downloads : Association String Download := []

namespace DownloadStore

def defaultTtl : Duration := .ofSeconds (5 * 60)

def size (store : DownloadStore) : Nat := store.downloads.length

/-! ## Steps -/

def insert (store : DownloadStore) (d : Download) : DownloadStore :=
  { store with downloads := store.downloads.put d.token d }

/-- Removes the download of a token, expired or not. -/
def take (store : DownloadStore) (token : String) : Option Download × DownloadStore :=
  (store.downloads.get? token, { store with downloads := store.downloads.drop token })

/-- Removes what is expired, and counts it. -/
def dropExpired (store : DownloadStore) (now : DateTime) : Nat × DownloadStore :=
  let (expired, live) := store.downloads.partition fun entry => entry.2.isExpired now
  (expired.length, { store with downloads := live })

/-! ## Operations -/

/-- The download of a payload that is issued at a time. -/
def prepare (store : DownloadStore) (now : DateTime) (token : String) (payload : Octets)
    (mimeType : String) (ttl : Option Duration) : Except Fault Download :=
  match now.add? (ttl.getD store.ttl) with
  | some deadline => .ok { token, payload, mimeType, deadline }
  | none => .error (.overflow "date value out of range")

def issue (store : DownloadStore) (now : DateTime) (token : String) (payload : Octets)
    (mimeType : String) (ttl : Option Duration := none) : Except Fault DownloadStore :=
  (store.prepare now token payload mimeType ttl).map store.insert

/-- What a fetched download is worth at a time. -/
def deliver (now : DateTime) (d : Download) : Option Download :=
  if d.isExpired now then none else some d

/-- Fetches a download. It can be fetched only once, even if it comes too late. -/
def consume (store : DownloadStore) (now : DateTime) (token : String) :
    Option Download × DownloadStore :=
  let (taken, rest) := store.take token
  (taken.bind (deliver now), rest)

end DownloadStore
end DocumentServer
