import DocumentServer.Download.Store
import DocumentServer.Proofs.Association

/-!
What a store of downloads holds under a token after each of its steps. No token stands for two
downloads, and no step changes that.
-/
namespace DocumentServer.DownloadStore
open Calendar

/-- The download that waits under a token. -/
def find? (store : DownloadStore) (token : String) : Option Download := store.downloads.get? token

/-- No token stands for two downloads. -/
def Distinct (store : DownloadStore) : Prop := store.downloads.keys.Nodup

variable {store : DownloadStore}

theorem find?_insert (store : DownloadStore) (d : Download) (token : String) :
    (store.insert d).find? token = if d.token = token then some d else store.find? token := by
  simp [find?, insert, Association.get?_put]

@[simp] theorem take_found (store : DownloadStore) (token : String) :
    (store.take token).1 = store.find? token := rfl

theorem find?_take (store : DownloadStore) (token t : String) :
    (store.take token).2.find? t = if token = t then none else store.find? t := by
  simp [find?, take, Association.get?_drop]

theorem dropExpired_downloads (store : DownloadStore) (now : DateTime) :
    (store.dropExpired now).2.downloads =
      store.downloads.filter fun entry => !entry.2.isExpired now := by
  simp only [dropExpired, List.partition_eq_filter_filter]
  rfl

theorem find?_dropExpired (distinct : store.Distinct) (now : DateTime) (token : String) :
    (store.dropExpired now).2.find? token = (store.find? token).filter fun d => !d.isExpired now := by
  rw [find?, dropExpired_downloads]
  exact Association.get?_filter distinct (fun d => !d.isExpired now) token

theorem isExpired_iff (d : Download) (now : DateTime) :
    d.isExpired now = true ↔ d.deadline.instant ≤ now.instant := by
  simp [Download.isExpired]

/-! ## Distinct tokens -/

theorem Distinct.insert (distinct : store.Distinct) (d : Download) : (store.insert d).Distinct :=
  Association.nodup_keys_put distinct d.token d

theorem Distinct.take (distinct : store.Distinct) (token : String) :
    (store.take token).2.Distinct := Association.nodup_keys_filter distinct _

theorem Distinct.dropExpired (distinct : store.Distinct) (now : DateTime) :
    (store.dropExpired now).2.Distinct := by
  rw [Distinct, dropExpired_downloads]
  exact Association.nodup_keys_filter distinct _

/-! ## Sizes -/

theorem size_insert {d : Download} (absent : store.find? d.token = none) :
    (store.insert d).size = store.size + 1 := by
  simp [size, insert, Association.put_of_absent (Association.get?_eq_none_iff.1 absent)]

theorem size_take (distinct : store.Distinct) (token : String) :
    (store.take token).2.size + (store.find? token).toList.length = store.size :=
  Association.length_drop distinct token

theorem dropExpired_count (store : DownloadStore) (now : DateTime) :
    (store.dropExpired now).1 = store.downloads.countP fun entry => entry.2.isExpired now := by
  simp only [dropExpired, List.partition_eq_filter_filter]
  exact List.countP_eq_length_filter.symm

theorem size_dropExpired (store : DownloadStore) (now : DateTime) :
    (store.dropExpired now).2.size + (store.dropExpired now).1 = store.size := by
  rw [size, dropExpired_downloads, dropExpired_count, List.countP_eq_length_filter, Nat.add_comm]
  exact (List.length_eq_length_filter_add _).symm

/-! ## Single downloads -/

/-- A download that is prepared has the deadline of its lifetime. -/
theorem prepare_eq_ok {now : DateTime} {token : String} {payload : Octets} {mimeType : String}
    {ttl : Option Duration} {d : Download}
    (made : store.prepare now token payload mimeType ttl = .ok d) :
    token = d.token ∧ payload = d.payload ∧ mimeType = d.mimeType ∧
      now.add? (ttl.getD store.ttl) = some d.deadline := by
  unfold prepare at made
  split at made
  · next deadline later =>
      cases made
      exact ⟨rfl, rfl, rfl, later⟩
  · cases made

theorem prepare_of_deadline {now : DateTime} {d : Download} {ttl : Option Duration}
    (later : now.add? (ttl.getD store.ttl) = some d.deadline) :
    store.prepare now d.token d.payload d.mimeType ttl = .ok d := by
  simp only [prepare, later]

theorem deliver_eq_some {now : DateTime} {d found : Download} (told : deliver now d = some found) :
    found = d ∧ now.instant < d.deadline.instant := by
  unfold deliver at told
  split at told
  · cases told
  · next unexpired =>
      rw [isExpired_iff, Int.not_le] at unexpired
      exact ⟨(Option.some.inj told).symm, unexpired⟩

theorem deliver_of_lt {now : DateTime} {d : Download}
    (inTime : now.instant < d.deadline.instant) : deliver now d = some d := by
  rw [deliver, if_neg]
  rwa [isExpired_iff, Int.not_le]

end DocumentServer.DownloadStore
