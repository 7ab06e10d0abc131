import DocumentServer.Association
import Mathlib.Data.List.Nodup

/-!
Association lists as maps: what is found after writing, and the keys. Writing to a new key adds it at
the end.
-/
namespace DocumentServer.Association

variable {κ : Type u} {α : Type v} [BEq κ] [LawfulBEq κ]

theorem get?_put (key k : κ) (value : α) (entries : Association κ α) :
    get? k (put key value entries) = if key == k then some value else get? k entries := by
  induction entries with
  | nil => simp only [put, get?]
  | cons entry rest ih =>
      obtain ⟨first, old⟩ := entry
      by_cases hit : first == key
      · obtain rfl := eq_of_beq hit
        simp only [put, hit, if_true, get?]
        split <;> rfl
      · simp only [put, hit, Bool.false_eq_true, if_false, get?, ih]
        by_cases found : first == k
        · obtain rfl := eq_of_beq found
          have other : (key == first) = false := by
            rw [beq_eq_false_iff_ne]
            rintro rfl
            exact hit found
          simp [other]
        · simp [found]

theorem mem_of_get? {key : κ} {value : α} {entries : Association κ α}
    (found : get? key entries = some value) : (key, value) ∈ entries := by
  induction entries with
  | nil => cases found
  | cons entry rest ih =>
      obtain ⟨first, old⟩ := entry
      simp only [get?] at found
      split at found
      · next hit =>
          obtain rfl := eq_of_beq hit
          cases found
          exact List.mem_cons_self
      · exact List.mem_cons_of_mem _ (ih found)

theorem get?_eq_none_iff {key : κ} {entries : Association κ α} :
    get? key entries = none ↔ key ∉ keys entries := by
  induction entries with
  | nil => simp [get?, keys]
  | cons entry rest ih =>
      obtain ⟨first, old⟩ := entry
      by_cases hit : first = key
      · simp [get?, keys, hit]
      · simpa [get?, keys, hit, Ne.symm hit] using ih

/-- Where no key is twice, each entry is found under its key. -/
theorem get?_of_mem {key : κ} {value : α} {entries : Association κ α}
    (distinct : (keys entries).Nodup) (member : (key, value) ∈ entries) :
    get? key entries = some value := by
  induction entries with
  | nil => cases member
  | cons entry rest ih =>
      obtain ⟨first, old⟩ := entry
      simp only [keys, List.map_cons, List.nodup_cons] at distinct
      rcases List.mem_cons.1 member with same | later
      · cases same
        simp [get?]
      · have other : first ≠ key := by
          rintro rfl
          exact distinct.1 (List.mem_map_of_mem later)
        simpa [get?, other] using ih distinct.2 later

theorem put_of_absent {key : κ} {entries : Association κ α} (absent : key ∉ keys entries)
    (value : α) : put key value entries = entries ++ [(key, value)] := by
  induction entries with
  | nil => rfl
  | cons entry rest ih =>
      obtain ⟨first, old⟩ := entry
      simp only [keys, List.map_cons, List.mem_cons, not_or] at absent
      have other : (first == key) = false := by simp [Ne.symm absent.1]
      simp only [put, other, Bool.false_eq_true, if_false, ih absent.2, List.cons_append]

theorem keys_put_of_present {key : κ} {entries : Association κ α} (present : key ∈ keys entries)
    (value : α) : keys (put key value entries) = keys entries := by
  induction entries with
  | nil => cases present
  | cons entry rest ih =>
      obtain ⟨first, old⟩ := entry
      by_cases hit : first = key
      · simp [put, keys, hit]
      · have later : key ∈ keys rest := by
          simpa [keys, Ne.symm hit] using present
        have other : (first == key) = false := by simp [hit]
        simpa [put, other, keys] using ih later

theorem nodup_keys_put {entries : Association κ α} (distinct : (keys entries).Nodup) (key : κ)
    (value : α) : (keys (put key value entries)).Nodup := by
  by_cases present : key ∈ keys entries
  · rwa [keys_put_of_present present]
  · rw [put_of_absent present]
    simp only [keys, List.map_append, List.map_cons, List.map_nil]
    rw [List.nodup_append]
    refine ⟨distinct, List.nodup_singleton key, ?_⟩
    rintro a before b after rfl
    rw [List.mem_singleton] at after
    exact present (after ▸ before)

/-- An entry after writing was there before, or is the one written. -/
theorem mem_put {key k : κ} {value v : α} {entries : Association κ α}
    (member : (k, v) ∈ put key value entries) : (k, v) ∈ entries ∨ k = key ∧ v = value := by
  induction entries with
  | nil =>
      obtain ⟨rfl, rfl⟩ := Prod.mk.inj (List.mem_singleton.1 member)
      exact .inr ⟨rfl, rfl⟩
  | cons entry rest ih =>
      obtain ⟨first, old⟩ := entry
      simp only [put] at member
      split at member
      · next hit =>
          rcases List.mem_cons.1 member with same | later
          · obtain ⟨rfl, rfl⟩ := Prod.mk.inj same
            exact .inr ⟨eq_of_beq hit, rfl⟩
          · exact .inl (List.mem_cons_of_mem _ later)
      · rcases List.mem_cons.1 member with same | later
        · exact .inl (same ▸ List.mem_cons_self)
        · exact (ih later).imp_left (List.mem_cons_of_mem _)

omit [LawfulBEq κ] in
theorem length_put_le (key : κ) (value : α) (entries : Association κ α) :
    (put key value entries).length ≤ entries.length + 1 := by
  induction entries with
  | nil => exact Nat.le_refl _
  | cons entry rest ih =>
      obtain ⟨first, old⟩ := entry
      simp only [put]
      split
      · simp
      · simpa using ih

/-! ## Taking entries away -/

theorem get?_drop (key k : κ) (entries : Association κ α) :
    get? k (drop key entries) = if key == k then none else get? k entries := by
  induction entries with
  | nil => simp [drop, get?]
  | cons entry rest ih =>
      obtain ⟨first, old⟩ := entry
      simp only [drop] at ih ⊢
      by_cases hit : first = key
      · subst hit
        simp only [List.filter_cons, BEq.rfl, Bool.not_true, Bool.false_eq_true, if_false, ih, get?]
        split <;> rfl
      · have other : (first == key) = false := by simp [hit]
        simp only [List.filter_cons, other, Bool.not_false, if_true, get?, ih]
        by_cases found : first = k
        · subst found
          simp [Ne.symm hit]
        · simp [found]

/-- Where no key is twice, at most one entry is taken away. -/
theorem length_drop {entries : Association κ α} (distinct : (keys entries).Nodup) (key : κ) :
    (drop key entries).length + (get? key entries).toList.length = entries.length := by
  induction entries with
  | nil => rfl
  | cons entry rest ih =>
      obtain ⟨first, value⟩ := entry
      simp only [keys, List.map_cons, List.nodup_cons] at distinct
      have later := ih distinct.2
      by_cases hit : first = key
      · subst hit
        -- The key is not among the others, so nothing else is dropped.
        rw [get?_eq_none_iff.2 distinct.1] at later
        simpa [drop, get?] using later
      · simp only [drop] at later
        simp [drop, get?, hit]
        omega

omit [BEq κ] [LawfulBEq κ] in
theorem nodup_keys_filter {entries : Association κ α} (distinct : (keys entries).Nodup)
    (kept : κ × α → Bool) : (keys (entries.filter kept)).Nodup :=
  distinct.sublist (List.filter_sublist.map _)

/-- Where no key is twice, what a filter leaves is found as before. -/
theorem get?_filter {entries : Association κ α} (distinct : (keys entries).Nodup)
    (kept : α → Bool) (key : κ) :
    get? key (entries.filter fun entry => kept entry.2) = (get? key entries).filter kept := by
  induction entries with
  | nil => rfl
  | cons entry rest ih =>
      obtain ⟨first, old⟩ := entry
      simp only [keys, List.map_cons, List.nodup_cons] at distinct
      by_cases hit : first = key
      · subst hit
        have absent : get? first (rest.filter fun entry => kept entry.2) = none := by
          rw [ih distinct.2, get?_eq_none_iff.2 distinct.1]
          rfl
        cases keeps : kept old
        · simpa [keeps, get?, Option.filter] using absent
        · simp [keeps, get?, Option.filter]
      · cases keeps : kept old
        · simpa [keeps, get?, hit] using ih distinct.2
        · simpa [keeps, get?, hit] using ih distinct.2

end DocumentServer.Association
