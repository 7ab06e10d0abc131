import DocumentServer.Proofs.Registry.Callers
import Mathlib.Data.List.Basic

/-!
Cancellation of callers. A run in which some callers are given up besides goes through the same
registries and rebuilds as the run without that, and all other callers are told the same.
-/
namespace DocumentServer.Session

variable {s t : Session} {e : Event} {gone : Nat → Prop}

/-- A session with other callers. -/
def withCallers (s : Session) (callers : List Caller) : Session := { s with callers }

/-! ## What does not depend on the callers -/

section
variable (s : Session) (callers : List Caller)

@[simp] theorem registry_withCallers : (s.withCallers callers).registry = s.registry := rfl

@[simp] theorem progress?_withCallers (g : Nat) :
    (s.withCallers callers).progress? g = s.progress? g := rfl

@[simp] theorem outcome?_withCallers (g : Nat) :
    (s.withCallers callers).outcome? g = s.outcome? g := rfl

@[simp] theorem collect_withCallers (collected : Index) (file : Files.Path)
    (result : Except Failure Document) :
    (s.withCallers callers).collect collected file result = s.collect collected file result := rfl

@[simp] theorem lookUp_withCallers (request : Request) :
    (s.withCallers callers).lookUp request = s.lookUp request := by
  cases request <;> rfl

@[simp] theorem replyAfter_withCallers (request : Request) (outcome : Outcome Index) :
    (s.withCallers callers).replyAfter request outcome = s.replyAfter request outcome := by
  cases outcome with
  | cancelled => rfl
  | failed failure => rfl
  | done index => cases request <;> rfl

theorem advance_withCallers (g : Nat) (collected : Index) (files : List Files.Path) :
    (s.withCallers callers).advance g collected files =
      (s.advance g collected files).withCallers callers := by
  cases files <;> rfl

/-- A step of a rebuild does not depend on the callers. -/
theorem step_withCallers (e : Event) (concerns : e.OfRebuild) :
    (s.withCallers callers).step e = (s.step e).withCallers callers := by
  cases e with
  | list g =>
      simp only [step, list, progress?_withCallers]
      split <;> rfl
  | proceed g =>
      simp only [step, proceed, progress?_withCallers]
      split
      · exact advance_withCallers s callers g _ _
      · rfl
      · rfl
  | compiled g result =>
      simp only [step, compile, progress?_withCallers, collect_withCallers]
      split
      · split
        · exact advance_withCallers s callers g _ _
        · rfl
      · rfl
  | cancelRebuild g =>
      simp only [step, cancelRebuild, progress?_withCallers]
      split <;> rfl
  | note g =>
      simp only [step, note, progress?_withCallers]
      split <;> rfl
  | change tree => exact concerns.elim
  | call request => exact concerns.elim
  | resume caller => exact concerns.elim
  | cancel caller => exact concerns.elim

theorem ensureInFlight_withCallers :
    (s.withCallers callers).ensureInFlight = s.ensureInFlight.withCallers callers := by
  unfold ensureInFlight
  rw [registry_withCallers]
  by_cases idle : s.registry.inFlight.isNone
  · rw [if_pos idle, if_pos idle]
    rfl
  · rw [if_neg idle, if_neg idle]

end

theorem awaitInFlight_withCallers (s : Session) (request : Request) :
    ∃ new, ∀ callers, (s.withCallers callers).awaitInFlight request =
      (s.awaitInFlight request).withCallers (callers ++ [new]) := by
  cases latest : s.registry.inFlight with
  | none =>
      refine ⟨⟨request, .answered (.failed nothingInFlight)⟩, fun callers => ?_⟩
      simp only [awaitInFlight, registry_withCallers, latest]
      rfl
  | some g =>
      cases ended : s.outcome? g with
      | none =>
          refine ⟨⟨request, .waiting g⟩, fun callers => ?_⟩
          simp only [awaitInFlight, await, registry_withCallers, outcome?_withCallers, latest, ended]
          rfl
      | some outcome =>
          refine ⟨⟨request, .answered (s.replyAfter request outcome)⟩, fun callers => ?_⟩
          simp only [awaitInFlight, await, registry_withCallers, outcome?_withCallers, latest, ended,
            replyAfter_withCallers]
          rfl

/-- A new caller is told, or waits for, the same whoever the others are. -/
theorem call_withCallers (s : Session) (request : Request) :
    ∃ new, ∀ callers, (s.withCallers callers).call request =
      (s.call request).withCallers (callers ++ [new]) := by
  by_cases refreshes : request = .refresh
  · subst refreshes
    refine ⟨⟨.refresh, .waiting s.registry.start.generation⟩, fun callers => ?_⟩
    rw [call_refresh, call_refresh]
    rfl
  by_cases ready : s.registry.phase = .populated
  · refine ⟨⟨request, .answered (s.lookUp request)⟩, fun callers => ?_⟩
    have readyToo : (s.withCallers callers).registry.phase = .populated := ready
    rw [call_populated refreshes ready, call_populated refreshes readyToo, lookUp_withCallers]
    rfl
  · obtain ⟨new, joins⟩ := awaitInFlight_withCallers s.ensureInFlight request
    refine ⟨new, fun callers => ?_⟩
    have unreadyToo : (s.withCallers callers).registry.phase ≠ .populated := ready
    rw [call_unpopulated refreshes ready, call_unpopulated refreshes unreadyToo,
      ensureInFlight_withCallers, joins]

/-! ## What becomes of one caller -/

/-- What becomes of a caller that goes on. -/
def resumed (s : Session) : Caller → Caller
  | { request, standing := .waiting g } =>
    match s.progress? g with
    | some (.noted outcome) => { request, standing := .answered (s.replyAfter request outcome) }
    | _ => { request, standing := .waiting g }
  | caller => caller

/-- What becomes of a caller that is given up. -/
def givenUp : Caller → Caller
  | { request, standing := .waiting _ } => { request, standing := .answered .cancelled }
  | caller => caller

@[simp] theorem resumed_withCallers (s : Session) (callers : List Caller) :
    (s.withCallers callers).resumed = s.resumed := by
  funext ⟨request, standing⟩
  cases standing with
  | answered reply => rfl
  | waiting g => simp only [resumed, progress?_withCallers, replyAfter_withCallers]

theorem modify_congr {callers : List Caller} {i : Nat} {f h : Caller → Caller}
    (same : ∀ caller, callers[i]? = some caller → f caller = h caller) :
    callers.modify i f = callers.modify i h := by
  rw [List.modify_eq_set_getElem?, List.modify_eq_set_getElem?]
  cases found : callers[i]? with
  | none => rfl
  | some caller => simp only [Option.map_eq_map, Option.map_some, same caller found]

/-- Setting the standing of a caller as a function would changes it alone. -/
theorem setStanding_eq {i : Nat} {request : Request} {before standing : Standing}
    {f : Caller → Caller} (found : s.callers[i]? = some ⟨request, before⟩)
    (becomes : f ⟨request, before⟩ = ⟨request, standing⟩) :
    s.setStanding i standing = s.withCallers (s.callers.modify i f) := by
  refine congrArg s.withCallers (modify_congr ?_)
  intro caller same
  obtain rfl := Option.some.inj (found.symm.trans same)
  exact becomes.symm

/-- A caller that a function leaves as it is need not be changed. -/
theorem withCallers_modify_of_fixed {i : Nat} {f : Caller → Caller}
    (fixed : ∀ caller, s.callers[i]? = some caller → f caller = caller) :
    s.withCallers (s.callers.modify i f) = s := by
  rw [modify_congr (h := id) fixed, List.modify_id]
  rfl

theorem resume_eq (s : Session) (i : Nat) :
    s.resume i = s.withCallers (s.callers.modify i s.resumed) := by
  unfold resume
  split
  · next request g found =>
      split
      · next outcome noted => exact setStanding_eq found (by simp only [resumed, noted])
      · next unnoted =>
          refine (withCallers_modify_of_fixed ?_).symm
          intro caller same
          obtain rfl := Option.some.inj (found.symm.trans same)
          simp only [resumed]
  · next other =>
      refine (withCallers_modify_of_fixed ?_).symm
      rintro ⟨request, standing⟩ found
      cases standing with
      | waiting g => exact absurd found (other request g)
      | answered reply => rfl

theorem cancel_eq (s : Session) (i : Nat) :
    s.cancel i = s.withCallers (s.callers.modify i givenUp) := by
  unfold cancel
  split
  · next request g found =>
      rw [giveUp_awaited]
      exact setStanding_eq found rfl
  · next other =>
      refine (withCallers_modify_of_fixed ?_).symm
      rintro ⟨request, standing⟩ found
      cases standing with
      | waiting g => exact absurd found (other request g)
      | answered reply => rfl

/-! ## Runs with and without some callers given up -/

/-- Two lists of callers differ in those at most that are gone. -/
def Agree (gone : Nat → Prop) (callers others : List Caller) : Prop :=
  others.length = callers.length ∧ ∀ i, ¬gone i → others[i]? = callers[i]?

/-- Two sessions differ in those callers at most that are gone. -/
def Alike (gone : Nat → Prop) (s t : Session) : Prop :=
  ∃ others, t = s.withCallers others ∧ Agree gone s.callers others

variable {callers others : List Caller}

theorem Agree.concat (agree : Agree gone callers others) (new : Caller) :
    Agree gone (callers ++ [new]) (others ++ [new]) := by
  obtain ⟨length, same⟩ := agree
  refine ⟨by simp [length], fun i stays => ?_⟩
  rw [List.getElem?_append, List.getElem?_append, length, same i stays]

theorem Agree.modify (agree : Agree gone callers others) (i : Nat) (f : Caller → Caller) :
    Agree gone (callers.modify i f) (others.modify i f) := by
  obtain ⟨length, same⟩ := agree
  refine ⟨by simp [length], fun j stays => ?_⟩
  rw [List.getElem?_modify, List.getElem?_modify, same j stays]

/-- What becomes of a caller that is gone is not seen. -/
theorem Agree.modify_gone (agree : Agree gone callers others) {i : Nat} (leaves : gone i)
    (f : Caller → Caller) : Agree gone callers (others.modify i f) := by
  obtain ⟨length, same⟩ := agree
  refine ⟨by simp [length], fun j stays => ?_⟩
  have other : i ≠ j := by
    rintro rfl
    exact stays leaves
  rw [List.getElem?_modify_ne f others other, same j stays]

theorem Alike.refl (gone : Nat → Prop) (s : Session) : Alike gone s s :=
  ⟨s.callers, rfl, rfl, fun _ _ => rfl⟩

/-- A step that both sessions take keeps them alike. -/
theorem Alike.step (alike : Alike gone s t) (e : Event) : Alike gone (s.step e) (t.step e) := by
  obtain ⟨others, rfl, agree⟩ := alike
  have rebuilds : e.OfRebuild → Alike gone (s.step e) ((s.withCallers others).step e) := by
    intro concerns
    refine ⟨others, step_withCallers s others e concerns, ?_⟩
    rwa [rebuild_callers s e concerns]
  cases e with
  | change tree => exact ⟨others, rfl, agree⟩
  | call request =>
      obtain ⟨new, calls⟩ := call_withCallers s request
      refine ⟨others ++ [new], calls others, ?_⟩
      have last : (s.call request).callers = s.callers ++ [new] :=
        congrArg Session.callers (calls s.callers)
      rw [Session.step, last]
      exact agree.concat new
  | resume i =>
      refine ⟨others.modify i s.resumed, ?_, ?_⟩
      · rw [Session.step, Session.step, resume_eq, resume_eq s, resumed_withCallers]
        rfl
      · rw [Session.step, resume_eq]
        exact agree.modify i s.resumed
  | cancel i =>
      refine ⟨others.modify i givenUp, ?_, ?_⟩
      · rw [Session.step, Session.step, cancel_eq, cancel_eq s]
        rfl
      · rw [Session.step, cancel_eq]
        exact agree.modify i givenUp
  | list g => exact rebuilds trivial
  | proceed g => exact rebuilds trivial
  | compiled g result => exact rebuilds trivial
  | cancelRebuild g => exact rebuilds trivial
  | note g => exact rebuilds trivial

/-- So does one in which a caller that is gone is given up. -/
theorem Alike.cancel (alike : Alike gone s t) {i : Nat} (leaves : gone i) :
    Alike gone s (t.step (.cancel i)) := by
  obtain ⟨others, rfl, agree⟩ := alike
  refine ⟨others.modify i givenUp, ?_, agree.modify_gone leaves givenUp⟩
  rw [Session.step, cancel_eq]
  rfl

/-- A run together with callers that are given up besides, each at some point of it. -/
abbrev Schedule := List (Event ⊕ Nat)

namespace Schedule

/-- The run alone. -/
def plain (schedule : Schedule) : List Event := schedule.filterMap Sum.getLeft?

/-- The run with the callers given up. -/
def woven (schedule : Schedule) : List Event := schedule.map (Sum.elim id .cancel)

end Schedule

theorem Alike.run (alike : Alike gone s t) (schedule : Schedule)
    (leaves : ∀ i, .inr i ∈ schedule → gone i) :
    Alike gone (s.run schedule.plain) (t.run schedule.woven) := by
  induction schedule generalizing s t with
  | nil => exact alike
  | cons entry rest ih =>
      have others : ∀ i, .inr i ∈ rest → gone i := fun i member =>
        leaves i (List.mem_cons_of_mem entry member)
      cases entry with
      | inl e => exact ih (alike.step e) others
      | inr i => exact ih (alike.cancel (leaves i List.mem_cons_self)) others

/-- A run in which some callers are given up besides is at each point where the run without that is:
it has the same registry and the same rebuilds, and has begun to compile the same files in the same
order. Everybody else is told the same, and at the same point. -/
theorem cancellations_unseen (root : Files.Path) (tree : Files.Tree) (schedule : Schedule) :
    let start := Session.start root tree
    ∀ past : Schedule, past <+: schedule →
      let s := start.run past.plain
      let t := start.run past.woven
      t.registry = s.registry ∧ t.rebuilds = s.rebuilds ∧ t.compiled = s.compiled ∧
        t.tree = s.tree ∧ t.callers.length = s.callers.length ∧
        ∀ caller, .inr caller ∉ schedule → t.callers[caller]? = s.callers[caller]? := by
  intro start past begins s t
  have alike : Alike (.inr · ∈ schedule) s t :=
    (Alike.refl _ start).run past fun i member => begins.subset member
  obtain ⟨others, same, length, stays⟩ := alike
  rw [same]
  exact ⟨rfl, rfl, rfl, rfl, length, stays⟩

end DocumentServer.Session
