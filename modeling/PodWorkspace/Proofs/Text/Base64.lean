import PodWorkspace.Proofs.Text.Blank
import PodWorkspace.Text.Base64

/-! The base64 form of bytes holds them: what was encoded is decoded. Each digit stands for the number
it was written for, no digit is taken for padding, and there is no white space to trim. -/

namespace PodWorkspace.Text.Base64

theorem value_digit : ∀ n < 64, value? (digit n) = some n := by decide

theorem digit_ne_padding : ∀ n < 64, digit n ≠ '=' := by decide

theorem byte_of_toNat_eq {n : Nat} {b : UInt8} (h : n = b.toNat) : UInt8.ofNat n = b := by
  rw [h, UInt8.ofNat_toNat]

theorem decodeChars_one (a : UInt8) : decodeChars (encodeChars [a]) = some [a] := by
  have hByte : a.toNat < 256 := a.toNat_lt
  have hUnused : a.toNat % 4 * 16 % 16 = 0 := by omega
  have hFirst : UInt8.ofNat (a.toNat / 4 * 4 + a.toNat % 4 * 16 / 16) = a :=
    byte_of_toNat_eq (by omega)
  simp only [encodeChars, decodeChars, value_digit (a.toNat / 4) (by omega),
    value_digit (a.toNat % 4 * 16) (by omega), Option.bind_eq_bind, Option.bind_some, and_self,
    if_true, decodeLast, hUnused, hFirst]

theorem decodeChars_two (a b : UInt8) : decodeChars (encodeChars [a, b]) = some [a, b] := by
  have hA : a.toNat < 256 := a.toNat_lt
  have hB : b.toNat < 256 := b.toNat_lt
  let n := a.toNat * 256 + b.toNat
  have hUnused : n % 16 * 4 % 4 = 0 := by omega
  have hGroup : (n / 1024 * 64 + n / 16 % 64) * 16 + n % 16 * 4 / 4 = n := by omega
  have hFirst : UInt8.ofNat (n / 256) = a := byte_of_toNat_eq (by omega)
  have hSecond : UInt8.ofNat (n % 256) = b := byte_of_toNat_eq (by omega)
  simp only [encodeChars, decodeChars, value_digit (n / 1024) (by omega),
    value_digit (n / 16 % 64) (by omega), value_digit (n % 16 * 4) (by omega),
    digit_ne_padding (n % 16 * 4) (by omega), Option.bind_eq_bind, Option.bind_some, and_self,
    if_true, if_false, decodeLast, hUnused, hGroup, hFirst, hSecond, n]

theorem decodeChars_three (a b c : UInt8) (rest : Bytes) :
    decodeChars (encodeChars (a :: b :: c :: rest)) =
      (decodeChars (encodeChars rest)).map ([a, b, c] ++ ·) := by
  have hA : a.toNat < 256 := a.toNat_lt
  have hB : b.toNat < 256 := b.toNat_lt
  have hC : c.toNat < 256 := c.toNat_lt
  let n := (a.toNat * 256 + b.toNat) * 256 + c.toNat
  have hGroup : ((n / 262144 * 64 + n / 4096 % 64) * 64 + n / 64 % 64) * 64 + n % 64 = n := by omega
  have hFirst : UInt8.ofNat (n / 65536) = a := byte_of_toNat_eq (by omega)
  have hSecond : UInt8.ofNat (n / 256 % 256) = b := byte_of_toNat_eq (by omega)
  have hThird : UInt8.ofNat (n % 256) = c := byte_of_toNat_eq (by omega)
  simp only [encodeChars, decodeChars, value_digit (n / 262144) (by omega),
    value_digit (n / 4096 % 64) (by omega), value_digit (n / 64 % 64) (by omega),
    value_digit (n % 64) (by omega), digit_ne_padding (n % 64) (by omega), Option.bind_eq_bind,
    Option.bind_some, false_and, if_false, hGroup, hFirst, hSecond, hThird, n]
  cases decodeChars (encodeChars rest) <;> rfl

theorem decodeChars_encodeChars (bytes : Bytes) : decodeChars (encodeChars bytes) = some bytes := by
  -- On the groups of three bytes, of which the last one may be short.
  induction bytes using encodeChars.induct with
  | case1 => rfl
  | case2 a => exact decodeChars_one a
  | case3 a b => exact decodeChars_two a b
  | case4 a b c rest ih => rw [decodeChars_three, ih]; rfl

/-- Bytes are read back from their base64 form. -/
@[simp] theorem decode_encode (bytes : Bytes) : decode (encode bytes) = some bytes := by
  rw [decode, encode, String.toList_ofList, decodeChars_encodeChars]

theorem not_isBlank_digit : ∀ n < 64, isBlank (digit n) = false := by decide

theorem not_isBlank_padding : isBlank '=' = false := by decide

theorem not_isBlank_of_mem_encodeChars (bytes : Bytes) :
    ∀ c ∈ encodeChars bytes, isBlank c = false := by
  induction bytes using encodeChars.induct with
  | case1 => nofun
  | case2 a =>
    have hA : a.toNat < 256 := a.toNat_lt
    have hFirst := not_isBlank_digit (a.toNat / 4) (by omega)
    have hSecond := not_isBlank_digit (a.toNat % 4 * 16) (by omega)
    simp [encodeChars, hFirst, hSecond, not_isBlank_padding]
  | case3 a b =>
    have hA : a.toNat < 256 := a.toNat_lt
    have hB : b.toNat < 256 := b.toNat_lt
    let n := a.toNat * 256 + b.toNat
    have hFirst := not_isBlank_digit (n / 1024) (by omega)
    have hSecond := not_isBlank_digit (n / 16 % 64) (by omega)
    have hThird := not_isBlank_digit (n % 16 * 4) (by omega)
    simp [encodeChars, hFirst, hSecond, hThird, not_isBlank_padding, n]
  | case4 a b c rest ih =>
    have hA : a.toNat < 256 := a.toNat_lt
    have hB : b.toNat < 256 := b.toNat_lt
    have hC : c.toNat < 256 := c.toNat_lt
    let n := (a.toNat * 256 + b.toNat) * 256 + c.toNat
    have hFirst := not_isBlank_digit (n / 262144) (by omega)
    have hSecond := not_isBlank_digit (n / 4096 % 64) (by omega)
    have hThird := not_isBlank_digit (n / 64 % 64) (by omega)
    have hFourth := not_isBlank_digit (n % 64) (by omega)
    simp only [encodeChars, List.forall_mem_cons]
    exact ⟨hFirst, hSecond, hThird, hFourth, ih⟩

theorem trim_encode (bytes : Bytes) : trim (encode bytes) = encode bytes := by
  rw [trim, encode, String.toList_ofList, trimChars_of_forall (not_isBlank_of_mem_encodeChars bytes)]

theorem encode_utf8_ne_empty {s : String} (h : s ≠ "") : encode (utf8 s) ≠ "" := by
  intro hEmpty
  have hBytes : some [] = some (utf8 s) := by
    rw [← decode_encode (utf8 s), hEmpty]
    rfl
  have hText : ofUtf8? [] = some s := by
    rw [Option.some.inj hBytes, ofUtf8?_utf8]
  exact h (Option.some.inj hText).symm

end PodWorkspace.Text.Base64
