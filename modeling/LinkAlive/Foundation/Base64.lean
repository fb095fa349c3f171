import Mathlib.Data.List.GetD

/-!
# Base64

The alphabet for URLs without padding, and the reader of the platform, which takes both
alphabets and passes over every other character. What is written is read back, and nothing
but letters, digits, `-` and `_` is written.
-/

namespace LinkAlive.Base64

set_option autoImplicit false

def digits : List Char :=
  "ABCDEFGHIJKLMNOPQRSTUVWXYZabcdefghijklmnopqrstuvwxyz0123456789-_".toList

def digit (value : Nat) : Char := digits.getD value 'A'

def digitValue (char : Char) : Option Nat :=
  if char = '+' then some 62
  else if char = '/' then some 63
  else digits.idxOf? char

/-- Three bytes are four digits; what is left of them at the end is two or three. -/
def encode : List UInt8 → List Char
  | [] => []
  | [first] => [digit (first.toNat / 4), digit (first.toNat % 4 * 16)]
  | [first, second] =>
      [digit (first.toNat / 4), digit (first.toNat % 4 * 16 + second.toNat / 16),
        digit (second.toNat % 16 * 4)]
  | first :: second :: third :: rest =>
      digit (first.toNat / 4) :: digit (first.toNat % 4 * 16 + second.toNat / 16) ::
        digit (second.toNat % 16 * 4 + third.toNat / 64) :: digit (third.toNat % 64) ::
          encode rest

/-- The bytes of a list of values; a single value at the end has too few bits for one. -/
def bytes : List Nat → List UInt8
  | [] => []
  | [_] => []
  | [first, second] => [UInt8.ofNat (first * 4 + second / 16)]
  | [first, second, third] =>
      [UInt8.ofNat (first * 4 + second / 16), UInt8.ofNat (second % 16 * 16 + third / 4)]
  | first :: second :: third :: fourth :: rest =>
      UInt8.ofNat (first * 4 + second / 16) :: UInt8.ofNat (second % 16 * 16 + third / 4) ::
        UInt8.ofNat (third % 4 * 64 + fourth) :: bytes rest

def decode (text : List Char) : List UInt8 := bytes (text.filterMap digitValue)

theorem digit_value_digit (value : Nat) (small : value < 64) :
    digitValue (digit value) = some value := by
  revert value
  decide +kernel

def isDigit (char : Char) : Bool := char.isAlphanum || char = '-' || char = '_'

theorem digit_is_digit (value : Nat) : isDigit (digit value) = true := by
  by_cases small : value < 64
  · revert value
    decide +kernel
  · have long : digits.length ≤ value := Nat.le_of_not_lt small
    rw [digit, List.getD_eq_default _ _ long]
    decide

theorem digit_values (value : Nat) (rest : List Char) (small : value < 64) :
    (digit value :: rest).filterMap digitValue = value :: rest.filterMap digitValue := by
  rw [List.filterMap_cons, digit_value_digit value small]

theorem decode_encode (source : List UInt8) : decode (encode source) = source := by
  induction source using encode.induct with
  | case1 => rfl
  | case2 first =>
      have bounded : first.toNat < 256 := first.toNat_lt
      rw [encode, decode, digit_values _ _ (by omega), digit_values _ _ (by omega)]
      have whole : first.toNat / 4 * 4 + first.toNat % 4 * 16 / 16 = first.toNat := by omega
      rw [List.filterMap_nil, bytes, whole, UInt8.ofNat_toNat]
  | case3 first second =>
      have bounded : first.toNat < 256 := first.toNat_lt
      have limited : second.toNat < 256 := second.toNat_lt
      rw [encode, decode, digit_values _ _ (by omega), digit_values _ _ (by omega),
        digit_values _ _ (by omega)]
      have whole : first.toNat / 4 * 4 + (first.toNat % 4 * 16 + second.toNat / 16) / 16 =
          first.toNat := by omega
      have other : (first.toNat % 4 * 16 + second.toNat / 16) % 16 * 16 +
          second.toNat % 16 * 4 / 4 = second.toNat := by omega
      rw [List.filterMap_nil, bytes, whole, other, UInt8.ofNat_toNat, UInt8.ofNat_toNat]
  | case4 first second third rest induction =>
      have bounded : first.toNat < 256 := first.toNat_lt
      have limited : second.toNat < 256 := second.toNat_lt
      have small : third.toNat < 256 := third.toNat_lt
      rw [encode, decode, digit_values _ _ (by omega), digit_values _ _ (by omega),
        digit_values _ _ (by omega), digit_values _ _ (by omega)]
      have whole : first.toNat / 4 * 4 + (first.toNat % 4 * 16 + second.toNat / 16) / 16 =
          first.toNat := by omega
      have other : (first.toNat % 4 * 16 + second.toNat / 16) % 16 * 16 +
          (second.toNat % 16 * 4 + third.toNat / 64) / 4 = second.toNat := by omega
      have last : (second.toNat % 16 * 4 + third.toNat / 64) % 4 * 64 + third.toNat % 64 =
          third.toNat := by omega
      rw [bytes, whole, other, last, UInt8.ofNat_toNat, UInt8.ofNat_toNat, UInt8.ofNat_toNat]
      exact congrArg (fun others => first :: second :: third :: others) induction

theorem encode_digits (source : List UInt8) : ∀ char ∈ encode source, isDigit char = true := by
  induction source using encode.induct with
  | case1 => simp [encode]
  | case2 first => simp [encode, digit_is_digit]
  | case3 first second => simp [encode, digit_is_digit]
  | case4 first second third rest induction =>
      intro char member
      simp only [encode, List.mem_cons] at member
      rcases member with rfl | rfl | rfl | rfl | later
      · exact digit_is_digit _
      · exact digit_is_digit _
      · exact digit_is_digit _
      · exact digit_is_digit _
      · exact induction char later

theorem encode_free {separator : Char} (other : isDigit separator = false)
    (source : List UInt8) : separator ∉ encode source := by
  intro member
  have written := encode_digits source separator member
  rw [other] at written
  cases written

theorem encode_eq_nil {source : List UInt8} : encode source = [] ↔ source = [] := by
  constructor
  · intro empty
    rw [← decode_encode source, empty]
    rfl
  · intro empty
    rw [empty]
    rfl

/-- The texts of the three lengths at the end. -/
example : encode [0xFB, 0xFF, 0xFE, 0x01] = "-__-AQ".toList := by decide

end LinkAlive.Base64
