import DocumentServer.Proofs.Text.Utf8
import DocumentServer.Web.Percent

/-!
Text is read back from its escapes, and text without escapes stands for itself.
-/
namespace DocumentServer.Web.Percent

variable {s : List Char}

theorem unescape_cons {c : Char} (plain : c ≠ '%') (rest : List Char) :
    unescape (c :: rest) = Text.encodeChar c ++ unescape rest := by
  rw [unescape]
  rintro _ _ _ rfl
  exact absurd rfl plain

theorem unescape_append (plain : '%' ∉ s) (rest : List Char) :
    unescape (s ++ rest) = s.flatMap Text.encodeChar ++ unescape rest := by
  induction s with
  | nil => rfl
  | cons c more ih =>
      rw [List.mem_cons, not_or] at plain
      rw [List.cons_append, unescape_cons (Ne.symm plain.1), ih plain.2, List.flatMap_cons,
        List.append_assoc]

theorem unescape_plain (plain : '%' ∉ s) : unescape s = s.flatMap Text.encodeChar := by
  have whole := unescape_append plain []
  have none : unescape [] = [] := by rw [unescape]
  rwa [List.append_nil, none, List.append_nil] at whole

theorem decode_plain {text : String} (plain : '%' ∉ text.toList) : decode text = text := by
  rw [decode, unescape_plain plain, Text.decodeLenient_encode, String.ofList_toList]

/-! ## Escapes -/

/-- The sign of a hexadecimal digit in an escape. -/
def hexSign (n : Nat) : Char := (Nat.digitChar n).toUpper

theorem hexValue?_hexSign : ∀ n < 16, Text.hexValue? (hexSign n) = some n := by decide

theorem escapeOctet_digits : ∀ n < 256,
    escapeOctet (UInt8.ofNat n) = ['%', hexSign (n / 16), hexSign (n % 16)] := by decide +kernel

theorem escapeOctet_eq (b : UInt8) :
    escapeOctet b = ['%', hexSign (b.toNat / 16), hexSign (b.toNat % 16)] := by
  have digits := escapeOctet_digits b.toNat b.toNat_lt
  rwa [UInt8.ofNat_toNat] at digits

theorem unescape_escapeOctet (b : UInt8) (rest : List Char) :
    unescape (escapeOctet b ++ rest) = b :: unescape rest := by
  have bound : b.toNat < 256 := b.toNat_lt
  have high := hexValue?_hexSign (b.toNat / 16) (by omega)
  have low := hexValue?_hexSign (b.toNat % 16) (by omega)
  have whole : b.toNat / 16 * 16 + b.toNat % 16 = b.toNat := by omega
  rw [escapeOctet_eq]
  simp only [List.cons_append, List.nil_append]
  rw [unescape]
  simp only [high, low, whole, UInt8.ofNat_toNat]

theorem unescape_escapeOctets (octets : Octets) (rest : List Char) :
    unescape (octets.flatMap escapeOctet ++ rest) = octets ++ unescape rest := by
  induction octets with
  | nil => rfl
  | cons b more ih =>
      rw [List.flatMap_cons, List.append_assoc, unescape_escapeOctet, ih, List.cons_append]

theorem ne_percent_of_isUnreserved {c : Char} (unreserved : isUnreserved c = true) : c ≠ '%' := by
  rintro rfl
  cases unreserved

theorem unescape_escapeChar (c : Char) (rest : List Char) :
    unescape (escapeChar [] c ++ rest) = Text.encodeChar c ++ unescape rest := by
  unfold escapeChar
  split
  · next kept =>
      have unreserved : isUnreserved c = true := by simpa using kept
      exact unescape_cons (ne_percent_of_isUnreserved unreserved) rest
  · exact unescape_escapeOctets _ rest

/-- A part of a path is read back from its escapes. -/
theorem decode_append_encodeSegment {start : String} (plain : '%' ∉ start.toList) (text : String) :
    decode (start ++ encodeSegment text) = start ++ text := by
  have escaped (s : List Char) :
      unescape (s.flatMap (escapeChar [])) = s.flatMap Text.encodeChar := by
    induction s with
    | nil => rw [List.flatMap_nil, unescape]; rfl
    | cons c more ih => rw [List.flatMap_cons, unescape_escapeChar, ih, List.flatMap_cons]
  rw [decode, encodeSegment, encodeWith, String.toList_append, String.toList_ofList,
    unescape_append plain, escaped, ← List.flatMap_append, Text.decodeLenient_encode,
    ← String.toList_append, String.ofList_toList]

end DocumentServer.Web.Percent
