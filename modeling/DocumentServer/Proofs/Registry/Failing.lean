import DocumentServer.Proofs.Registry.Lookups

/-!
Failing lookups. A lookup that comes while an index is live does not depend on any rebuild. One that
comes before that fails with the rebuild that it joins, even if another rebuild has put an index in
place in between.
-/
namespace DocumentServer

/-- An index has an answer to everything but paths that lead nowhere and pages that cannot be
rendered. -/
theorem Index.request_of_answer_failed {live : Index} {tree : Files.Tree} {request : Request}
    {failure : Failure} (failed : live.answer tree request = .failed failure) :
    (∃ path fault, request = .findPath path ∧ Files.resolve tree path = .error fault ∧
      failure = .fault fault) ∨ ∃ id props, request = .render id props := by
  cases request with
  | refresh => cases failed
  | ensure => cases failed
  | find id => cases failed
  | ids => cases failed
  | entries => cases failed
  | findPath path =>
      simp only [Index.answer] at failed
      split at failed
      · cases failed
      · next fault lost =>
          cases failed
          exact .inl ⟨path, fault, rfl, lost, rfl⟩
  | render id props => exact .inr ⟨id, props, rfl⟩

namespace Session

variable {s : Session} {e : Event} {caller g : Nat} {request : Request}

/-- Before an index is live no rebuild has run to completion. -/
theorem Sound.completed_eq_nil (sound : s.Sound) (none : s.registry.index.generation = 0) :
    s.completed = [] := by
  rw [List.eq_nil_iff_forall_not_mem]
  intro g member
  obtain ⟨index, told⟩ := mem_completed.1 member
  have live := sound.live_of_done told
  omega

/-- Whoever waits for a rebuild to look something up has come before any index was live. -/
theorem Sound.empty_of_joins (sound : s.Sound) (joins : Joins caller g request s e)
    (reads : request ≠ .refresh) : s.registry.index.generation = 0 := by
  obtain ⟨_, _, ⟨refreshes, _⟩ | ⟨_, unready, _⟩⟩ := joins
  · exact absurd refreshes reads
  · rw [sound.phase, ne_eq, Registry.properPhase_eq_populated_iff] at unready
    exact Nat.eq_zero_of_not_pos unready

/-- While an index is live, a rebuild that came to nothing is not the one that put it in place. -/
theorem Sound.live_of_other (sound : s.Sound) {told : Outcome Index}
    (ended : s.outcome? g = some told) (failed : told.isDone = false)
    (live : 0 < s.registry.index.generation) :
    s.registry.index.generation ∈ s.completed ∧ s.registry.index.generation ≠ g := by
  obtain ⟨index, done⟩ := sound.live live
  refine ⟨mem_completed.2 ⟨index, done⟩, ?_⟩
  rintro rfl
  rw [ended] at done
  cases done
  cases failed

/-- Whoever looks something up is answered out of the live index, or fails or is given up as the
rebuild that it joined when it came: the latest one then, when no index was live and no rebuild had
run to completion. So an index that is live when it fails was put in place by another rebuild while it
waited. Whoever comes to a populated registry is answered at once, and no rebuild has a part in what
it is told. -/
theorem lookups_fail_only_as_the_rebuild_they_joined (root : Files.Path) (tree : Files.Tree)
    (events : List Event) :
    let start := Session.start root tree
    let s := start.run events
    let live := s.registry.index
    (∀ (e : Event) (caller : Nat) (request : Request) (reply : Outcome Reply),
      request ≠ .refresh → e ≠ .cancel caller → Tells caller request reply s e →
      (0 < live.generation ∧ reply = live.answer s.tree request) ∨
      ∃ g, (reply = .cancelled ∧ s.outcome? g = some .cancelled ∨
          ∃ failure, reply = .failed failure ∧ s.outcome? g = some (.failed failure)) ∧
        start.Occurs (events ++ [e]) (fun past asked => Joins caller g request past asked ∧
          (past.step asked).registry.generation = g ∧ past.registry.index.generation = 0 ∧
          past.completed = []) ∧
        (0 < live.generation → live.generation ∈ s.completed ∧ live.generation ≠ g)) ∧
    (∀ request, request ≠ .refresh → s.registry.phase = .populated →
      0 < live.generation ∧
      Tells s.callers.length request (live.answer s.tree request) s (.call request)) ∧
    ∀ request failure, live.answer s.tree request = .failed failure →
      (∃ path fault, request = .findPath path ∧ Files.resolve s.tree path = .error fault ∧
        failure = .fault fault) ∨ ∃ id props, request = .render id props := by
  intro start s live
  have sound : s.Sound := sound_run root tree events
  have populated : s.registry.phase = .populated → 0 < live.generation := by
    intro ready
    rwa [sound.phase, Registry.properPhase_eq_populated_iff] at ready
  refine ⟨?_, ?_, fun request failure => Index.request_of_answer_failed⟩
  · intro e caller request reply reads kept tells
    rcases tells_cases root tree events tells with
      ⟨_, ready, rfl⟩ | ⟨given, _⟩ | ⟨g, outcome, joined, ended, rfl⟩
    · exact .inl ⟨populated ready, lookUp_eq_answer s request⟩
    · exact absurd given kept
    · have whence : start.Occurs (events ++ [e]) (fun past asked =>
          Joins caller g request past asked ∧ (past.step asked).registry.generation = g ∧
          past.registry.index.generation = 0 ∧ past.completed = []) := by
        obtain ⟨before, asked, after, split, joins⟩ := joined
        have past : (start.run before).Sound := sound_run root tree before
        have none := past.empty_of_joins joins reads
        exact ⟨before, asked, after, split, joins, joins.latest past, none,
          past.completed_eq_nil none⟩
      cases outcome with
      | done index =>
          refine .inl ⟨sound.live_of_done ended, ?_⟩
          rw [replyAfter_done reads]
          exact lookUp_eq_answer s request
      | cancelled => exact .inr ⟨g, .inl ⟨rfl, ended⟩, whence, sound.live_of_other ended rfl⟩
      | failed failure =>
          exact .inr ⟨g, .inr ⟨failure, rfl, ended⟩, whence, sound.live_of_other ended rfl⟩
  · intro request reads ready
    refine ⟨populated ready, ?_, ?_⟩
    · rw [List.getElem?_eq_none (Nat.le_refl _)]
      exact fun told => nomatch told
    · rw [step, call_populated reads ready, addCaller, List.getElem?_concat_length,
        lookUp_eq_answer]

/-! ### A lookup that fails while an index is live -/

def brokenPage : Failure :=
  .compilation "Failed to compile document" ⟨"SyntaxError", "boom"⟩ (some "/a.html")

/-- Two refreshes overlap, and a read of the ids joins the rebuild of the second. The rebuild of the
first puts its index in place before the other one fails. -/
def overtakenRead : List Event :=
  [.call .refresh, .call .refresh, .list 1, .list 2, .call .ids, .proceed 1, .proceed 2,
    .compiled 1 (.ok (blankDocument ["a.html"])), .compiled 1 (.ok (blankDocument ["b.html"])),
    .compiled 2 (.error brokenPage), .note 1, .note 2]

theorem overtakenRead_fails_while_populated :
    let s := (Session.start [] twoPages).run overtakenRead
    s.registry.phase = .populated ∧ s.registry.index.generation = 1 ∧
      s.outcome? 2 = some (.failed brokenPage) ∧
      Tells 2 .ids (.failed brokenPage) s (.resume 2) ∧
      (s.step (.resume 2)).registry.phase = .populated := by
  have listed : (Session.start [] twoPages).run (overtakenRead.take 4) =
      { root := [], tree := twoPages, registry := (Registry.start {}).start
        rebuilds := [{ generation := 1, progress := .listed (.ok [["a.html"], ["b.html"]]) },
          { generation := 2, progress := .listed (.ok [["a.html"], ["b.html"]]) }]
        callers := [{ request := .refresh, standing := .waiting 1 },
          { request := .refresh, standing := .waiting 2 }] } := by
    have opened := listing_twoPages (Registry.start {}).start
      [{ generation := 1 }, { generation := 2 }]
      [{ request := .refresh, standing := .waiting 1 },
        { request := .refresh, standing := .waiting 2 }]
    rw [← opened]
    rfl
  rw [← List.take_append_drop 4 overtakenRead, run_append, listed]
  refine ⟨rfl, rfl, rfl, ⟨?_, rfl⟩, rfl⟩
  intro told
  cases told

end Session
end DocumentServer
