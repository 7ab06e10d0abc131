import DocumentServer.Json.OfValue
import DocumentServer.Proofs.Fault
import Mathlib.Data.List.Chain

/-!
Which values have a JSON text. A missing value has none. Besides, only the keys of mappings can be in
the way: those that stand next to each other must have an order, and each must be able to name a member.
-/
namespace DocumentServer

namespace Json

/-- Keys that a JSON object can be sorted by and that can name its members. -/
structure FitKeys (keys : List Value) : Prop where
  ordered : keys.IsChain fun x y => ∃ less, Value.testOrder .less y x = .ok less
  named : ∀ key ∈ keys, ∃ name, memberName key = .ok name

mutual

/-- Nothing in a value is missing, and the keys of all its mappings are fit for JSON. -/
def Encodable : Value → Prop
  | .missing _ => False
  | .list items => EncodableItems items
  | .tuple items => EncodableItems items
  | .dict entries => FitKeys (entries.map (·.1)) ∧ EncodableEntries entries
  | _ => True

def EncodableItems : List Value → Prop
  | [] => True
  | item :: rest => Encodable item ∧ EncodableItems rest

def EncodableEntries : List (Value × Value) → Prop
  | [] => True
  | (_, item) :: rest => Encodable item ∧ EncodableEntries rest

end

variable {α : Type} {keys : List Value}

/-- Texts are always fit. -/
theorem fitKeys_of_texts (texts : ∀ key ∈ keys, ∃ s, key = .text s) : FitKeys keys where
  ordered := by
    refine (List.pairwise_of_forall_mem_list ?_).isChain
    intro x first y second
    obtain ⟨s, rfl⟩ := texts x first
    obtain ⟨t, rfl⟩ := texts y second
    exact ⟨_, rfl⟩
  named := by
    intro key member
    obtain ⟨s, rfl⟩ := texts key member
    exact ⟨s, rfl⟩

/-! ## Making JSON -/

theorem checkKeyOrder_eq_ok (entries : List (Value × α)) :
    checkKeyOrder entries = .ok () ↔ (entries.map (·.1)).IsChain fun x y =>
      ∃ less, Value.testOrder .less y x = .ok less := by
  induction entries with
  | nil => simp [checkKeyOrder]
  | cons entry rest ih =>
      obtain ⟨x, v⟩ := entry
      cases rest with
      | nil => simp [checkKeyOrder]
      | cons next rest =>
          obtain ⟨y, w⟩ := next
          rw [checkKeyOrder, bind_eq_ok, ih]
          simp [List.isChain_cons_cons]

/-- The member of an object that an entry becomes. -/
def memberOf (entry : Value × Except Fault Json) : Except Fault (String × Json) := do
  let name ← memberName entry.1
  return (name, ← entry.2)

theorem exists_memberOf_eq_ok {entry : Value × Except Fault Json} :
    (∃ member, memberOf entry = .ok member) ↔
      (∃ name, memberName entry.1 = .ok name) ∧ ∃ j, entry.2 = .ok j := by
  constructor
  · rintro ⟨member, made⟩
    obtain ⟨name, named, made⟩ := bind_eq_ok.1 made
    obtain ⟨j, item, _⟩ := bind_eq_ok.1 made
    exact ⟨⟨name, named⟩, j, item⟩
  · rintro ⟨⟨name, named⟩, j, item⟩
    exact ⟨(name, j), by rw [memberOf, named, ok_bind, item]; rfl⟩

theorem exists_objectOf_eq_ok {entries : List (Value × Except Fault Json)} :
    (∃ j, objectOf entries = .ok j) ↔
      FitKeys (entries.map (·.1)) ∧ ∀ entry ∈ entries, ∃ j, entry.2 = .ok j := by
  have whole : objectOf entries = checkKeyOrder entries >>= fun _ =>
      (entries.mergeSort isKeyBefore).mapM memberOf >>= fun members => .ok (.object members) := by
    rw [objectOf, sortByKey, bind_assoc]
    rfl
  have members : (∃ members, (entries.mergeSort isKeyBefore).mapM memberOf = .ok members) ↔
      ∀ entry ∈ entries, (∃ name, memberName entry.1 = .ok name) ∧ ∃ j, entry.2 = .ok j := by
    rw [exists_mapM_eq_ok]
    simp only [List.mem_mergeSort, exists_memberOf_eq_ok]
  rw [whole]
  constructor
  · rintro ⟨j, made⟩
    obtain ⟨_, ordered, made⟩ := bind_eq_ok.1 made
    obtain ⟨all, made, _⟩ := bind_eq_ok.1 made
    have each := members.1 ⟨all, made⟩
    exact ⟨⟨(checkKeyOrder_eq_ok entries).1 ordered,
      List.forall_mem_map.2 fun entry member => (each entry member).1⟩,
      fun entry member => (each entry member).2⟩
  · rintro ⟨⟨ordered, named⟩, items⟩
    obtain ⟨all, made⟩ := members.2 fun entry member =>
      ⟨List.forall_mem_map.1 named entry member, items entry member⟩
    exact ⟨.object all, by rw [(checkKeyOrder_eq_ok entries).2 ordered, ok_bind, made, ok_bind]⟩

theorem keys_ofEntries (entries : List (Value × Value)) :
    (ofEntries entries).map (·.1) = entries.map (·.1) := by
  induction entries with
  | nil => rfl
  | cons entry rest ih => rw [ofEntries, List.map_cons, ih, List.map_cons]

mutual

/-- A value has JSON exactly if nothing in it is missing and the keys of its mappings are fit. -/
theorem exists_ofValue_eq_ok : ∀ v, (∃ j, ofValue v = .ok j) ↔ Encodable v
  | .list items => by rw [ofValue, Encodable, exists_map_eq_ok, exists_ofItems_eq_ok items]
  | .tuple items => by rw [ofValue, Encodable, exists_map_eq_ok, exists_ofItems_eq_ok items]
  | .dict entries => by
      rw [ofValue, Encodable, exists_objectOf_eq_ok, keys_ofEntries, forall_ofEntries_eq_ok entries]
  | .missing _ => ⟨nofun, False.elim⟩
  | .none | .bool _ | .int _ | .double _ | .decimal _ | .text _ | .markup _ | .date _ | .dateTime _
  | .zone _ | .range .. | .view .. | .method .. | .function _ | .handle .. | .loop .. | .module .. =>
      ⟨fun _ => trivial, fun _ => ⟨_, rfl⟩⟩

theorem exists_ofItems_eq_ok : ∀ items, (∃ all, ofItems items = .ok all) ↔ EncodableItems items
  | [] => ⟨fun _ => trivial, fun _ => ⟨_, rfl⟩⟩
  | item :: rest => by
      rw [EncodableItems, ← exists_ofValue_eq_ok item, ← exists_ofItems_eq_ok rest]
      constructor
      · rintro ⟨all, made⟩
        obtain ⟨first, here, made⟩ := bind_eq_ok.1 made
        obtain ⟨others, later, _⟩ := bind_eq_ok.1 made
        exact ⟨⟨first, here⟩, others, later⟩
      · rintro ⟨⟨first, here⟩, others, later⟩
        exact ⟨first :: others, by rw [ofItems, here, ok_bind, later, ok_bind]; rfl⟩

theorem forall_ofEntries_eq_ok :
    ∀ entries, (∀ entry ∈ ofEntries entries, ∃ j, entry.2 = .ok j) ↔ EncodableEntries entries
  | [] => by simp [ofEntries, EncodableEntries]
  | (key, item) :: rest => by
      rw [EncodableEntries, ← exists_ofValue_eq_ok item, ← forall_ofEntries_eq_ok rest, ofEntries,
        List.forall_mem_cons]

end

end Json
end DocumentServer
