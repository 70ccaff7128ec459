import Mathlib.Data.List.Basic

/-! # Base64 in the URL alphabet

The digits of `base64.urlsafe_b64encode` without the padding, and what `base64.b64decode` makes
of them once the padding is put back. Bytes that were encoded are decoded again.
-/

namespace Hybro.Base64Url

def alphabet : List Char :=
  "ABCDEFGHIJKLMNOPQRSTUVWXYZabcdefghijklmnopqrstuvwxyz0123456789-_".toList

def digit (value : Nat) : Char :=
  alphabet.getD value 'A'

def digitValue (c : Char) : Option Nat :=
  alphabet.findIdx? (· == c)

def digits : Nat → Nat → List Char
  | 0, _ => []
  | count + 1, value => digits count (value / 64) ++ [digit (value % 64)]

/-- Three bytes are four digits, and a shorter end is one digit more than it has bytes. -/
def encode : List UInt8 → List Char
  | a :: b :: c :: rest => digits 4 (a.toNat * 65536 + b.toNat * 256 + c.toNat) ++ encode rest
  | [a, b] => digits 3 ((a.toNat * 256 + b.toNat) * 4)
  | [a] => digits 2 (a.toNat * 16)
  | [] => []

def decodeValues : List Nat → Option (List UInt8)
  | a :: b :: c :: d :: rest =>
      let value := ((a * 64 + b) * 64 + c) * 64 + d
      (decodeValues rest).map fun bytes =>
        UInt8.ofNat (value / 65536) :: UInt8.ofNat (value / 256 % 256) ::
          UInt8.ofNat (value % 256) :: bytes
  | [a, b, c] =>
      let value := ((a * 64 + b) * 64 + c) / 4
      some [UInt8.ofNat (value / 256), UInt8.ofNat (value % 256)]
  | [a, b] => some [UInt8.ofNat ((a * 64 + b) / 16)]
  | [_] => none
  | [] => some []

def decode (chars : List Char) : Option (List UInt8) :=
  (chars.mapM digitValue).bind decodeValues

/-! ## Bytes that were encoded -/

theorem digitValue_digit {value : Nat} (h : value < 64) : digitValue (digit value) = some value := by
  revert value
  decide

def digitValues : Nat → Nat → List Nat
  | 0, _ => []
  | count + 1, value => digitValues count (value / 64) ++ [value % 64]

theorem mapM_digits (count value : Nat) :
    (digits count value).mapM digitValue = some (digitValues count value) := by
  induction count generalizing value with
  | zero => rfl
  | succ count ih =>
      unfold digits digitValues
      rw [List.mapM_append, ih]
      simp [digitValue_digit (Nat.mod_lt value (by decide : 0 < 64))]

def encodeValues : List UInt8 → List Nat
  | a :: b :: c :: rest =>
      digitValues 4 (a.toNat * 65536 + b.toNat * 256 + c.toNat) ++ encodeValues rest
  | [a, b] => digitValues 3 ((a.toNat * 256 + b.toNat) * 4)
  | [a] => digitValues 2 (a.toNat * 16)
  | [] => []

theorem mapM_encode (bytes : List UInt8) :
    (encode bytes).mapM digitValue = some (encodeValues bytes) := by
  induction bytes using encode.induct with
  | case1 a b c rest ih =>
      unfold encode encodeValues
      rw [List.mapM_append, mapM_digits, ih]
      rfl
  | case2 a b => exact mapM_digits 3 _
  | case3 a => exact mapM_digits 2 _
  | case4 => rfl

theorem ofNat_eq {a : UInt8} {value : Nat} (h : value = a.toNat) : UInt8.ofNat value = a := by
  rw [h, UInt8.ofNat_toNat]

theorem decodeValues_encodeValues (bytes : List UInt8) :
    decodeValues (encodeValues bytes) = some bytes := by
  induction bytes using encode.induct with
  | case1 a b c rest ih =>
      have ha := a.toNat_lt
      have hb := b.toNat_lt
      have hc := c.toNat_lt
      simp only [encodeValues, digitValues, List.nil_append, List.cons_append, decodeValues, ih,
        Option.map_some]
      rw [ofNat_eq (a := a) (by omega), ofNat_eq (a := b) (by omega), ofNat_eq (a := c) (by omega)]
  | case2 a b =>
      have ha := a.toNat_lt
      have hb := b.toNat_lt
      simp only [encodeValues, digitValues, List.nil_append, List.cons_append, decodeValues]
      rw [ofNat_eq (a := a) (by omega), ofNat_eq (a := b) (by omega)]
  | case3 a =>
      have ha := a.toNat_lt
      simp only [encodeValues, digitValues, List.nil_append, List.cons_append, decodeValues]
      rw [ofNat_eq (a := a) (by omega)]
  | case4 => rfl

theorem decode_encode (bytes : List UInt8) : decode (encode bytes) = some bytes := by
  unfold decode
  rw [mapM_encode]
  exact decodeValues_encodeValues bytes

theorem digit_mem_alphabet {value : Nat} (h : value < 64) : digit value ∈ alphabet := by
  revert value
  decide

theorem mem_alphabet_of_mem_digits {count value : Nat} {c : Char} (h : c ∈ digits count value) :
    c ∈ alphabet := by
  induction count generalizing value with
  | zero => cases h
  | succ count ih =>
      rcases List.mem_append.mp h with h | h
      · exact ih h
      · rw [List.mem_singleton.mp h]
        exact digit_mem_alphabet (Nat.mod_lt value (by decide))

theorem mem_alphabet_of_mem_encode {bytes : List UInt8} {c : Char} (h : c ∈ encode bytes) :
    c ∈ alphabet := by
  induction bytes using encode.induct with
  | case1 a b c rest ih =>
      rcases List.mem_append.mp h with h | h
      · exact mem_alphabet_of_mem_digits h
      · exact ih h
  | case2 a b => exact mem_alphabet_of_mem_digits h
  | case3 a => exact mem_alphabet_of_mem_digits h
  | case4 => cases h

theorem length_le_encode (bytes : List UInt8) : bytes.length ≤ (encode bytes).length := by
  induction bytes using encode.induct with
  | case1 a b c rest ih =>
      simp [encode, digits]
      omega
  | case2 a b => simp [encode, digits]
  | case3 a => simp [encode, digits]
  | case4 => simp

theorem length_encode_le (bytes : List UInt8) : (encode bytes).length ≤ 2 * bytes.length := by
  induction bytes using encode.induct with
  | case1 a b c rest ih =>
      simp [encode, digits]
      omega
  | case2 a b => simp [encode, digits]
  | case3 a => simp [encode, digits]
  | case4 => simp [encode]

end Hybro.Base64Url
