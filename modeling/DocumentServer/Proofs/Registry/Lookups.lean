import DocumentServer.Proofs.Document.Compiling
import DocumentServer.Proofs.Registry.Consistency
import DocumentServer.Proofs.Registry.Generation
import DocumentServer.Proofs.Registry.Joining
import DocumentServer.Proofs.Registry.Phase

/-!
Lookups read one index. To its readers a session is a map that is replaced as a whole: each answer is
what the index says that is live in the step of the answer, and later answers come of indexes that are
not older.
-/
namespace DocumentServer

/-- What one index says to a request. -/
def Index.answer (live : Index) (tree : Files.Tree) : Request → Outcome Reply
  | .refresh => .done (.refreshed live)
  | .ensure => .done .ready
  | .find id => .done (.entry (live.byId.get? id))
  | .findPath path =>
    match Files.resolve tree path with
    | .ok place => .done (.entry (live.byPath.get? place))
    | .error fault => .failed (.fault fault)
  | .ids => .done (.ids live.byId.keys)
  | .entries => .done (.entries live.byId.values)
  | .render id props =>
    match renderFound tree id props (live.byId.get? id) with
    | .ok rendering => .done (.rendered rendering)
    | .error failure => .failed failure

/-- A rendering has its page and its stylesheet from one entry. -/
def Entry.Renders (entry : Entry) (tree : Files.Tree) (props : List (Value × Value))
    (rendering : Rendering) : Prop :=
  entry.document.render tree (entry.propertiesFor props) = .ok rendering.markup ∧
    rendering.css = entry.document.css

/-- A rendering is that of the entry that an index has under an id. -/
def Index.Renders (live : Index) (tree : Files.Tree) (id : String) (props : List (Value × Value))
    (rendering : Rendering) : Prop :=
  ∃ entry ∈ live.entries, entry.id = id ∧ entry.Renders tree props rendering

theorem Entry.renders_of_render {entry : Entry} {tree : Files.Tree} {props : List (Value × Value)}
    {rendering : Rendering} (made : entry.render tree props = .ok rendering) :
    entry.Renders tree props rendering := by
  unfold Entry.render at made
  split at made
  · next markup page =>
      cases made
      exact ⟨page, rfl⟩
  · cases made

/-- Only what was found is rendered. -/
theorem renderFound_eq_ok {tree : Files.Tree} {id : String} {props : List (Value × Value)}
    {found : Option Entry} {rendering : Rendering}
    (made : renderFound tree id props found = .ok rendering) :
    ∃ entry, found = some entry ∧ entry.Renders tree props rendering := by
  cases found with
  | none => cases made
  | some entry => exact ⟨entry, rfl, Entry.renders_of_render made⟩

namespace Session

variable {s : Session} {e : Event} {caller : Nat} {request : Request}

theorem lookUp_eq_answer (s : Session) (request : Request) :
    s.lookUp request = s.registry.index.answer s.tree request := by
  cases request with
  | refresh => rfl
  | ensure => rfl
  | find id => rfl
  | ids => rfl
  | entries => rfl
  | findPath path =>
      simp only [lookUp, Index.answer, Registry.findPath]
      cases Files.resolve s.tree path <;> rfl
  | render id props =>
      simp only [lookUp, Index.answer, Registry.render, Registry.find]
      cases renderFound s.tree id props (s.registry.index.byId.get? id) <;> rfl

/-- A step in which a caller is told something leaves the registry as it is. -/
theorem Answers.registry {reply : Outcome Reply} (answers : Answers s request e caller reply) :
    (s.step e).registry = s.registry := by
  cases answers with
  | atOnce reads ready =>
      rw [step, call_populated reads ready]
      rfl
  | joined reads unready latest _ =>
      rw [step, call_unpopulated reads unready, ensureInFlight_of_some latest,
        (awaitInFlight_core _ _).1]
  | resumed waits noted =>
      rw [step, resume, waits]
      simp only [noted, setStanding]
  | cancelled waits =>
      rw [step, cancel, waits]
      simp only [giveUp_awaited, setStanding]

theorem Sound.answer_of_done (sound : s.Sound) (reads : request ≠ .refresh) {reply : Reply}
    (answers : Answers s request e caller (.done reply)) :
    0 < s.registry.index.generation ∧
      s.registry.index.answer s.tree request = .done reply := by
  rcases sound.answers_cases reads answers with ⟨live, same⟩ | cancelled | ⟨_, _, _, failed⟩
  · exact ⟨live, by rw [← lookUp_eq_answer, ← same]⟩
  · cases cancelled
  · cases failed

/-- What is found under an id in a live index is an entry of it that has this id. -/
theorem live_entry_of_get? (root : Files.Path) (tree : Files.Tree) (events : List Event) {id : String}
    {entry : Entry}
    (found : ((Session.start root tree).run events).registry.index.byId.get? id = some entry) :
    entry ∈ ((Session.start root tree).run events).registry.index.entries ∧ entry.id = id := by
  have member := Association.mem_of_get? found
  refine ⟨List.mem_map.2 ⟨_, member, rfl⟩, ?_⟩
  obtain ⟨whole, _⟩ := live_eq_ofEntries root tree events
  rw [whole] at member
  exact ((Index.byId_ofEntries _ _).1 member).2

/-- Whoever looks something up and is answered is told what the index says that is live in the step
of the answer: the whole work of one rebuild that ran to completion. Whoever is answered later is told
what an index says that is not older. A rendering, and also one that is made of a found entry while
others go on, has its page and its stylesheet from one entry of such an index. -/
theorem lookups_read_one_live_index (root : Files.Path) (tree : Files.Tree) (events : List Event) :
    let start := Session.start root tree
    let s := start.run events
    let live := s.registry.index
    ∀ (e : Event) (caller : Nat) (request : Request) (reply : Reply), request ≠ .refresh →
      Tells caller request (.done reply) s e →
      (s.step e).registry.index = live ∧ 0 < live.generation ∧ live.generation ∈ s.completed ∧
      start.Built events live ∧ live.answer s.tree request = .done reply ∧
      (∀ (more : List Event) (next : Event) (other : Nat) (asked : Request) (told : Reply),
        let later := (s.step e).run more
        asked ≠ .refresh → Tells other asked (.done told) later next →
        live.generation ≤ later.registry.index.generation ∧
          later.registry.index.answer later.tree asked = .done told) ∧
      (∀ id props rendering, request = .render id props → reply = .rendered rendering →
        live.Renders s.tree id props rendering) ∧
      ∀ id found, request = .find id → reply = .entry found →
        ∀ (more : List Event) props rendering,
          let later := (s.step e).run more
          renderFound later.tree id props found = .ok rendering →
          live.Renders later.tree id props rendering := by
  intro start s live e caller request reply reads tells
  have sound : s.Sound := sound_run root tree events
  have answers := sound.answers_of_tells tells
  have kept : (s.step e).registry.index = live := by rw [answers.registry]
  obtain ⟨positive, said⟩ := sound.answer_of_done reads answers
  have completed : live.generation ∈ s.completed := mem_completed.2 (sound.live positive)
  refine ⟨kept, positive, completed, (traced_run root tree events).live positive, said, ?_, ?_, ?_⟩
  · intro more next other asked told later readsToo tellsToo
    have soundLater : later.Sound := (sound.step e).run more
    refine ⟨?_, (soundLater.answer_of_done readsToo (soundLater.answers_of_tells tellsToo)).2⟩
    rw [← kept]
    exact live_generation_le_run (s.step e) more
  · rintro id props rendering rfl rfl
    simp only [Index.answer] at said
    split at said
    · next made =>
        cases said
        obtain ⟨entry, found, renders⟩ := renderFound_eq_ok made
        obtain ⟨member, same⟩ := live_entry_of_get? root tree events found
        exact ⟨entry, member, same, renders⟩
    · cases said
  · rintro id found rfl rfl more props rendering later made
    obtain ⟨entry, rfl, renders⟩ := renderFound_eq_ok made
    simp only [Index.answer, Outcome.done.injEq, Reply.entry.injEq] at said
    obtain ⟨member, same⟩ := live_entry_of_get? root tree events said
    exact ⟨entry, member, same, renders⟩

/-- A caller looks for an entry, which starts the first rebuild, and waits for it. -/
def firstFind : List Event :=
  [.call (.find "a"), .list 1, .proceed 1, .compiled 1 (.ok (blankDocument ["a.html"])),
    .compiled 1 (.ok (blankDocument ["b.html"])), .note 1]

def firstEntry : Entry where
  id := "a"
  slug := "a.html"
  path := ["a.html"]
  document := blankDocument ["a.html"]

/-- The entry is found, and after it the ids. It can be rendered when its file is gone and the next
rebuild has begun. -/
theorem firstFind_reads_one_live_index :
    let s := (Session.start [] twoPages).run firstFind
    let t := s.step (.resume 0)
    let later := t.run [.change .empty, .call .refresh]
    Tells 0 (.find "a") (.done (.entry (some firstEntry))) s (.resume 0) ∧
      Tells 1 .ids (.done (.ids ["a", "b"])) t (.call .ids) ∧
      s.registry.index.generation ≤ t.registry.index.generation ∧
      renderFound later.tree "a" [] (some firstEntry) = .ok ⟨"", none⟩ ∧
      s.registry.index.Renders later.tree "a" [] ⟨"", none⟩ := by
  intro s t later
  have listed : (Session.start [] twoPages).run (firstFind.take 2) =
      { root := [], tree := twoPages, registry := Registry.start {}
        rebuilds := [{ generation := 1, progress := .listed (.ok [["a.html"], ["b.html"]]) }]
        callers := [{ request := .find "a", standing := .waiting 1 }] } := by
    have opened := listing_twoPages (Registry.start {}) [{ generation := 1 }]
      [{ request := .find "a", standing := .waiting 1 }]
    rw [← opened]
    rfl
  have rebuilt : s = ((Session.start [] twoPages).run (firstFind.take 2)).run (firstFind.drop 2) := by
    rw [← run_append, List.take_append_drop]
  have finds : Tells 0 (.find "a") (.done (.entry (some firstEntry))) s (.resume 0) := by
    rw [rebuilt, listed]
    refine ⟨?_, rfl⟩
    intro told
    cases told
  have reads : Tells 1 .ids (.done (.ids ["a", "b"])) t (.call .ids) := by
    simp only [t]
    rw [rebuilt, listed]
    refine ⟨?_, rfl⟩
    intro told
    cases told
  have renders : renderFound later.tree "a" [] (some firstEntry) = .ok ⟨"", none⟩ :=
    Entry.render_blank rfl rfl rfl later.tree
  obtain ⟨_, _, _, _, _, next, _, rendered⟩ := lookups_read_one_live_index [] twoPages firstFind
    (.resume 0) 0 (.find "a") (.entry (some firstEntry)) nofun finds
  exact ⟨finds, reads, (next [] (.call .ids) 1 .ids _ nofun reads).1, renders,
    rendered "a" (some firstEntry) rfl rfl [.change .empty, .call .refresh] [] ⟨"", none⟩ renders⟩

end Session
end DocumentServer
