import DocumentServer.Text.Base64
import Mathlib.Data.List.Basic

/-!
What was written in base64 is read back as it was.
-/
namespace DocumentServer.Text.Base64

theorem value?_digit {n : Nat} (small : n < 64) : value? (digit n) = some n := by
  revert n
  decide

theorem digit_ne_pad {n : Nat} (small : n < 64) : digit n ≠ '=' := by
  revert n
  decide +kernel

/-- The first of three octets, from the numbers of its characters. -/
theorem first_octet (a : UInt8) (low : Nat) (small : low < 16) :
    UInt8.ofNat (a.toNat / 4 * 4 + (a.toNat % 4 * 16 + low) / 16) = a := by
  have same : a.toNat / 4 * 4 + (a.toNat % 4 * 16 + low) / 16 = a.toNat := by omega
  rw [same, UInt8.ofNat_toNat]

theorem second_octet (b : UInt8) (high low : Nat) (small : low < 4) :
    UInt8.ofNat ((high * 16 + b.toNat / 16) % 16 * 16 + (b.toNat % 16 * 4 + low) / 4) = b := by
  have below := b.toNat_lt
  have same : (high * 16 + b.toNat / 16) % 16 * 16 + (b.toNat % 16 * 4 + low) / 4 = b.toNat := by
    omega
  rw [same, UInt8.ofNat_toNat]

theorem third_octet (c : UInt8) (high : Nat) :
    UInt8.ofNat ((high * 4 + c.toNat / 64) % 4 * 64 + c.toNat % 64) = c := by
  have below := c.toNat_lt
  have same : (high * 4 + c.toNat / 64) % 4 * 64 + c.toNat % 64 = c.toNat := by omega
  rw [same, UInt8.ofNat_toNat]

theorem decodeChars?_cons {a b c d : Char} (c_ne : c ≠ '=') (d_ne : d ≠ '=') (rest : List Char) :
    decodeChars? (a :: b :: c :: d :: rest) = do
      let octets := octetsOf (← value? a) (← value? b) (← value? c) (← value? d)
      return octets ++ (← decodeChars? rest) := by
  rw [decodeChars?]
  · rintro rfl rfl
    exact absurd rfl c_ne
  · rintro rfl
    exact absurd rfl d_ne

theorem decodeChars?_encodeChars (octets : Octets) :
    decodeChars? (encodeChars octets) = some octets := by
  induction octets using encodeChars.induct with
  | case1 => rfl
  | case2 a =>
      have := a.toNat_lt
      rw [encodeChars, decodeChars?, value?_digit (by omega), value?_digit (by omega)]
      have first := first_octet a 0 (by omega)
      rw [Nat.add_zero] at first
      simp only [octetsOf, List.map_cons, Option.bind_eq_bind, Option.bind_some, first]
      rfl
  | case3 a b =>
      have := a.toNat_lt
      have := b.toNat_lt
      have c_ne : digit (b.toNat % 16 * 4) ≠ '=' := digit_ne_pad (by omega)
      rw [encodeChars, decodeChars?, value?_digit (by omega), value?_digit (by omega),
        value?_digit (by omega)]
      · have first := first_octet a (b.toNat / 16) (by omega)
        have second := second_octet b (a.toNat % 4) 0 (by omega)
        rw [Nat.add_zero] at second
        simp only [octetsOf, List.map_cons, Option.bind_eq_bind, Option.bind_some, first, second]
        rfl
      · intro same
        exact absurd same c_ne
  | case4 a b c rest ih =>
      have := a.toNat_lt
      have := b.toNat_lt
      have := c.toNat_lt
      rw [encodeChars, decodeChars?_cons (digit_ne_pad (by omega)) (digit_ne_pad (by omega)),
        value?_digit (by omega), value?_digit (by omega), value?_digit (by omega),
        value?_digit (by omega), ih]
      have first := first_octet a (b.toNat / 16) (by omega)
      have second := second_octet b (a.toNat % 4) (c.toNat / 64) (by omega)
      have third := third_octet c (b.toNat % 16)
      simp only [octetsOf, List.map_cons, Option.bind_eq_bind, Option.bind_some, first, second,
        third]
      rfl

theorem decode?_encode (octets : Octets) : decode? (encode octets) = some octets := by
  rw [decode?, encode, String.toList_ofList, decodeChars?_encodeChars]

end DocumentServer.Text.Base64
