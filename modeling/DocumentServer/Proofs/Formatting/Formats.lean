import DocumentServer.Formatting.Formats
import DocumentServer.Proofs.Fault

/-!
Definitions under text keys: the definition is the first one that is listed under the key.
-/
namespace DocumentServer.Formatting

theorem lookup?_named (key : String) (entries : List (String × String)) :
    Value.lookup? (.text key) (named entries) = (entries.lookup key).map .text := by
  induction entries with
  | nil => rfl
  | cons entry rest ih =>
      have same : Value.same (.text entry.1) (.text key) = (key == entry.1) := by
        simp [Value.same, Value.text?]
      have step : Value.lookup? (.text key) (named (entry :: rest)) =
          if Value.same (.text entry.1) (.text key) then some (.text entry.2)
          else Value.lookup? (.text key) (named rest) := rfl
      rw [step, same, ih, List.lookup_cons]
      cases key == entry.1 <;> rfl

theorem definition_named (subject : String) {entries : List (String × String)} {key d : String}
    (found : entries.lookup key = some d) :
    definition subject (named entries) (.text key) = .ok (.text d) := by
  have hashable : checkKey (.text key) = .ok () := by simp [checkKey, Value.unhashable?]
  rw [definition, hashable, ok_bind, lookup?_named, found]
  rfl

end DocumentServer.Formatting
