import DocumentServer.Text.Utf8
import Mathlib.Data.List.Basic

/-!
Text is read back from its octets.
-/
namespace DocumentServer.Text

variable {c : Char} {n v size low high : Nat}

/-! ## First octets -/

theorem not_ascii_of_lead {bounds : Nat × Nat × Nat} (lead : leadOctet n = some bounds) :
    ¬n < 0x80 := by
  grind [leadOctet]

theorem leadOctet_two (least : 0xC2 ≤ n) (greatest : n ≤ 0xDF) :
    leadOctet n = some (2, 0x80, 0xBF) := by
  grind [leadOctet]

/-- The second of three octets is within the bounds that the first one tells. -/
theorem leadOctet_three (least : 0x800 ≤ v) (greatest : v ≤ 0xFFFF)
    (scalar : v < 0xD800 ∨ 0xDFFF < v) :
    ∃ low high, leadOctet (v / 4096 + 224) = some (3, low, high) ∧
      low ≤ v / 64 % 64 + 128 ∧ v / 64 % 64 + 128 ≤ high := by
  have tail := Nat.mod_lt (v / 64) (by decide : 0 < 64)
  by_cases first : v / 4096 = 0
  · exact ⟨0xA0, 0xBF, by grind [leadOctet], by omega, by omega⟩
  by_cases belowSurrogates : v / 4096 = 13
  · exact ⟨0x80, 0x9F, by grind [leadOctet], by omega, by omega⟩
  · exact ⟨0x80, 0xBF, by grind [leadOctet], by omega, by omega⟩

/-- The second of four octets is within the bounds that the first one tells. -/
theorem leadOctet_four (least : 0x10000 ≤ v) (greatest : v ≤ 0x10FFFF) :
    ∃ low high, leadOctet (v / 262144 + 240) = some (4, low, high) ∧
      low ≤ v / 4096 % 64 + 128 ∧ v / 4096 % 64 + 128 ≤ high := by
  have tail := Nat.mod_lt (v / 4096) (by decide : 0 < 64)
  by_cases first : v / 262144 = 0
  · exact ⟨0x90, 0xBF, by grind [leadOctet], by omega, by omega⟩
  by_cases last : v / 262144 = 4
  · exact ⟨0x80, 0x8F, by grind [leadOctet], by omega, by omega⟩
  · exact ⟨0x80, 0xBF, by grind [leadOctet], by omega, by omega⟩

/-! ## Octets after the first -/

theorem toNat_octet (small : n < 256) : (UInt8.ofNat n).toNat = n := by
  rw [UInt8.toNat_ofNat', Nat.mod_eq_of_lt small]

/-- An octet after the first holds six bits. -/
theorem continuation_octet (least : low ≤ v % 64 + 128) (greatest : v % 64 + 128 ≤ high)
    (wanted : Nat) (rest : Octets) :
    continuation low high (wanted + 1) (UInt8.ofNat (v % 64 + 128) :: rest) =
      v % 64 :: continuation 0x80 0xBF wanted rest := by
  have digit := Nat.mod_lt v (by decide : 0 < 64)
  have bits : (v % 64 + 128) % 64 = v % 64 := by omega
  have within : (decide (low ≤ v % 64 + 128) && decide (v % 64 + 128 ≤ high)) = true := by
    simp [least, greatest]
  simp only [continuation, toNat_octet (by omega : v % 64 + 128 < 256), within, if_pos, bits]

theorem continuation_tail (v wanted : Nat) (rest : Octets) :
    continuation 0x80 0xBF (wanted + 1) (UInt8.ofNat (v % 64 + 128) :: rest) =
      v % 64 :: continuation 0x80 0xBF wanted rest :=
  continuation_octet (by omega) (by omega) wanted rest

/-! ## Characters -/

theorem decodeStep_lead {digits : List Nat} {rest : Octets} (small : n < 256)
    (lead : leadOctet n = some (size, low, high))
    (tail : continuation low high (size - 1) rest = digits) (whole : digits.length + 1 = size) :
    decodeStep (UInt8.ofNat n) rest =
      .char (Char.ofNat (digits.foldl (fun v d => v * 64 + d) (n % Nat.pow 2 (7 - size)))) size := by
  simp [decodeStep, toNat_octet small, not_ascii_of_lead lead, lead, tail, whole]

theorem decodeStep_two (least : 0x80 ≤ v) (greatest : v ≤ 0x7FF) (rest : Octets) :
    decodeStep (UInt8.ofNat (v / 64 % 32 + 192)) (UInt8.ofNat (v % 64 + 128) :: rest) =
      .char (Char.ofNat v) 2 := by
  have tail := continuation_tail v 0 rest
  have whole : (v / 64 % 32 + 192) % 32 * 64 + v % 64 = v := by omega
  rw [decodeStep_lead (by omega) (leadOctet_two (by omega) (by omega)) tail rfl]
  exact congrArg (fun n => Utf8Step.char (Char.ofNat n) 2) whole

theorem decodeStep_three (least : 0x800 ≤ v) (greatest : v ≤ 0xFFFF)
    (scalar : v < 0xD800 ∨ 0xDFFF < v) (rest : Octets) :
    decodeStep (UInt8.ofNat (v / 4096 % 16 + 224))
      (UInt8.ofNat (v / 64 % 64 + 128) :: UInt8.ofNat (v % 64 + 128) :: rest) =
        .char (Char.ofNat v) 3 := by
  obtain ⟨low, high, lead, lower, upper⟩ := leadOctet_three least greatest scalar
  have bits : v / 4096 % 16 = v / 4096 := by omega
  have tail := continuation_octet lower upper 1 (UInt8.ofNat (v % 64 + 128) :: rest)
  rw [continuation_tail v 0 rest] at tail
  have whole : ((v / 4096 + 224) % 16 * 64 + v / 64 % 64) * 64 + v % 64 = v := by omega
  rw [bits, decodeStep_lead (by omega) lead tail rfl]
  exact congrArg (fun n => Utf8Step.char (Char.ofNat n) 3) whole

theorem decodeStep_four (least : 0x10000 ≤ v) (greatest : v ≤ 0x10FFFF) (rest : Octets) :
    decodeStep (UInt8.ofNat (v / 262144 % 8 + 240))
      (UInt8.ofNat (v / 4096 % 64 + 128) :: UInt8.ofNat (v / 64 % 64 + 128) ::
        UInt8.ofNat (v % 64 + 128) :: rest) = .char (Char.ofNat v) 4 := by
  obtain ⟨low, high, lead, lower, upper⟩ := leadOctet_four least greatest
  have bits : v / 262144 % 8 = v / 262144 := by omega
  have tail := continuation_octet lower upper 2
    (UInt8.ofNat (v / 64 % 64 + 128) :: UInt8.ofNat (v % 64 + 128) :: rest)
  rw [continuation_tail (v / 64) 1 (UInt8.ofNat (v % 64 + 128) :: rest),
    continuation_tail v 0 rest] at tail
  have whole : (((v / 262144 + 240) % 8 * 64 + v / 4096 % 64) * 64 + v / 64 % 64) * 64 + v % 64 =
      v := by omega
  rw [bits, decodeStep_lead (by omega) lead tail rfl]
  exact congrArg (fun n => Utf8Step.char (Char.ofNat n) 4) whole

theorem toNat_scalar (c : Char) : c.toNat < 0xD800 ∨ 0xDFFF < c.toNat ∧ c.toNat ≤ 0x10FFFF := by
  rcases c.valid with low | ⟨above, high⟩
  · exact .inl low
  · exact .inr ⟨above, Nat.le_of_lt_succ high⟩

/-- A character is read back from its octets, whatever follows them. -/
theorem decodeStep_encodeChar (c : Char) :
    ∃ b more, encodeChar c = b :: more ∧
      ∀ rest, decodeStep b (more ++ rest) = .char c (more.length + 1) := by
  have scalar := toNat_scalar c
  have octets : encodeChar c = String.utf8EncodeChar c := rfl
  have same : c.val.toNat = c.toNat := rfl
  have told := Char.ofNat_toNat c
  simp only [String.utf8EncodeChar, same] at octets
  clear same
  generalize c.toNat = v at scalar octets told
  subst told
  split at octets
  · next ascii =>
      refine ⟨_, _, octets, fun rest => ?_⟩
      simp [decodeStep, toNat_octet (by omega : v < 256), (by omega : v < 0x80)]
  split at octets
  · exact ⟨_, _, octets, decodeStep_two (by omega) (by omega)⟩
  split at octets
  · exact ⟨_, _, octets, decodeStep_three (by omega) (by omega) (by omega)⟩
  · exact ⟨_, _, octets, decodeStep_four (by omega) (by omega)⟩

theorem decodeLenientFrom_encode (s : List Char) (fuel : Nat)
    (enough : (s.flatMap encodeChar).length ≤ fuel) :
    decodeLenientFrom fuel (s.flatMap encodeChar) = s := by
  induction s generalizing fuel with
  | nil => cases fuel <;> rfl
  | cons c rest ih =>
      obtain ⟨b, more, octets, step⟩ := decodeStep_encodeChar c
      rw [List.flatMap_cons, octets, List.cons_append] at enough ⊢
      cases fuel with
      | zero => simp at enough
      | succ fuel =>
          rw [decodeLenientFrom, step]
          simp only [List.drop_succ_cons, List.drop_left]
          rw [ih fuel]
          simp only [List.length_cons, List.length_append] at enough
          omega

theorem decodeLenient_encode (s : List Char) :
    decodeLenient (s.flatMap encodeChar) = .ofList s := by
  rw [decodeLenient, decodeLenientFrom_encode s _ (Nat.le_refl _)]

theorem decodeFrom_encode (s : List Char) (fuel position : Nat)
    (enough : (s.flatMap encodeChar).length ≤ fuel) :
    decodeFrom fuel position (s.flatMap encodeChar) = .ok s := by
  induction s generalizing fuel position with
  | nil => cases fuel <;> rfl
  | cons c rest ih =>
      obtain ⟨b, more, octets, step⟩ := decodeStep_encodeChar c
      rw [List.flatMap_cons, octets, List.cons_append] at enough ⊢
      cases fuel with
      | zero => simp at enough
      | succ fuel =>
          have less : (rest.flatMap encodeChar).length ≤ fuel := by
            simp only [List.length_cons, List.length_append] at enough
            omega
          rw [decodeFrom, step]
          simp only [List.drop_succ_cons, List.drop_left]
          rw [ih fuel _ less]
          rfl

/-- What was encoded is well-formed, and is read back as it was. -/
theorem decodeUtf8_encodeUtf8 (s : String) : decodeUtf8 (encodeUtf8 s) = .ok s := by
  rw [decodeUtf8, encodeUtf8, decodeFrom_encode s.toList _ 0 (Nat.le_refl _), Except.map,
    String.ofList_toList]

end DocumentServer.Text
