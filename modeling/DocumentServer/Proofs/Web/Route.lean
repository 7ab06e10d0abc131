import DocumentServer.Web.Route
import Mathlib.Data.List.Basic

/-!
Which paths lead to an endpoint.
-/
namespace DocumentServer

namespace Text

theorem dropStart?_append (start : String) (rest : List Char) :
    dropStart? start (start.toList ++ rest) = some rest := by
  rw [dropStart?, if_pos (by simp), ← String.length_toList, List.drop_left]

theorem dropStart?_eq_some {start : String} {chars rest : List Char}
    (found : dropStart? start chars = some rest) : chars = start.toList ++ rest := by
  by_cases begins : start.toList.isPrefixOf chars
  · obtain ⟨tail, rfl⟩ := List.isPrefixOf_iff_prefix.1 begins
    rw [dropStart?_append] at found
    rw [Option.some.inj found]
  · rw [dropStart?, if_neg begins] at found
    cases found

end Text

namespace Web

namespace Endpoint

theorem dropLineFeed_cases (path : List Char) :
    path = dropLineFeed path ∨ path = dropLineFeed path ++ ['\n'] := by
  unfold dropLineFeed
  split
  · next rest ends =>
      right
      rw [← List.reverse_inj, ends]
      simp
  · exact .inl rfl

theorem dropLineFeed_append (start : List Char) {rest : List Char} (more : rest ≠ []) :
    dropLineFeed (start ++ rest) = start ++ dropLineFeed rest := by
  obtain ⟨init, last, rfl⟩ := (List.eq_nil_or_concat' rest).resolve_left more
  by_cases ends : last = '\n'
  · simp [dropLineFeed, ends]
  · simp [dropLineFeed, ends]

/-- No path is fixed that goes on from a start that no fixed path has. -/
theorem lookup_fixed_append {start : String}
    (other : ∀ entry ∈ fixed, ¬start.toList <+: entry.1.toList) (rest : List Char) :
    fixed.lookup (.ofList (start.toList ++ rest)) = none := by
  rw [List.lookup_eq_none_iff]
  intro entry known
  rw [bne_iff_ne]
  intro same
  refine other entry known ?_
  rw [← same, String.toList_ofList]
  exact List.prefix_append _ _

theorem mem_fixed {path : String} {e : Endpoint} (found : fixed.lookup path = some e) :
    (path, e) ∈ fixed := by
  obtain ⟨before, after, split, _⟩ := List.lookup_eq_some_iff.1 found
  simp [split]

/-- The paths that lead to an endpoint. -/
theorem ofPath?_cases {path : String} {e : Endpoint} (found : ofPath? path = some e) :
    (∃ start, (start, e) ∈ fixed ∧
      (path.toList = start.toList ∨ path.toList = start.toList ++ ['\n'])) ∨
    (∃ relative rest, e = .staticFile relative ∧ path.toList = "/static/".toList ++ rest) ∨
    (∃ id, e = .render (.ofList id) ∧ path.toList = "/api/documents/".toList ++ id) ∨
    ∃ token, e = .download (.ofList token) ∧ path.toList = "/api/downloads/".toList ++ token := by
  simp only [ofPath?, Option.orElse_eq_orElse, Option.orElse_eq_or, Option.or_eq_some_iff] at found
  rcases found with known | ⟨-, static | ⟨-, render | ⟨-, download⟩⟩⟩
  · refine .inl ⟨_, mem_fixed known, ?_⟩
    rw [String.toList_ofList]
    exact dropLineFeed_cases _
  · obtain ⟨rest, starts, leads⟩ := Option.bind_eq_some_iff.1 static
    dsimp only at leads
    split at leads
    · cases leads
    · exact .inr (.inl ⟨_, rest, (Option.some.inj leads).symm, Text.dropStart?_eq_some starts⟩)
  · obtain ⟨id, starts, leads⟩ := Option.bind_eq_some_iff.1 render
    split at leads
    · exact .inr (.inr (.inl ⟨id, (Option.some.inj leads).symm, Text.dropStart?_eq_some starts⟩))
    · cases leads
  · obtain ⟨token, starts, leads⟩ := Option.bind_eq_some_iff.1 download
    split at leads
    · exact .inr (.inr (.inr ⟨token, (Option.some.inj leads).symm, Text.dropStart?_eq_some starts⟩))
    · cases leads

end Endpoint

theorem Request.route_eq_endpoint {r : Request} {e : Endpoint} :
    r.route = .endpoint e ↔ r.method = e.method ∧ Endpoint.ofPath? r.path = some e := by
  unfold Request.route
  split
  · next other leads =>
      split
      · next same => grind
      · next differs => grind
  · next none =>
      split <;> simp [none]

end Web
end DocumentServer
