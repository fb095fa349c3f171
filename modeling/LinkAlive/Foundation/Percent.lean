import LinkAlive.Foundation.Texts

/-!
# Percent-encoding

`encodeURIComponent` on well-formed texts, and the decoder that reads its bytes back. The
encoding keeps texts apart and writes no delimiter of a URL.
-/

namespace LinkAlive.Percent

set_option autoImplicit false

/-- The punctuation that `encodeURIComponent` leaves as it is. -/
def marks : List Char := "-_.!~*'()".toList

def isUnreserved (char : Char) : Bool := char.isAlphanum || char ∈ marks

def hexDigit (value : Nat) : Char := (Nat.digitChar value).toUpper

def hexValue (char : Char) : Nat :=
  if char.toNat < 0x41 then char.toNat - 0x30 else char.toNat - 0x37

def encodeByte (byte : UInt8) : List Char :=
  ['%', hexDigit (byte.toNat / 16), hexDigit (byte.toNat % 16)]

def encodeChar (char : Char) : List Char :=
  if isUnreserved char then [char] else (String.utf8EncodeChar char).flatMap encodeByte

def encodeURIComponent (text : String) : String :=
  String.ofList (text.toList.flatMap encodeChar)

def decodeBytes : List Char → List UInt8
  | [] => []
  | [first] => [UInt8.ofNat first.toNat]
  | [first, second] => [UInt8.ofNat first.toNat, UInt8.ofNat second.toNat]
  | first :: high :: low :: rest =>
      if first = '%' then
        UInt8.ofNat (16 * hexValue high + hexValue low) :: decodeBytes rest
      else UInt8.ofNat first.toNat :: decodeBytes (high :: low :: rest)

theorem hex_value_digit (value : Nat) (small : value < 16) :
    hexValue (hexDigit value) = value := by
  revert value
  decide

theorem hex_digit_alphanum (value : Nat) (small : value < 16) :
    (hexDigit value).isAlphanum = true := by
  revert value
  decide

theorem decode_byte (byte : UInt8) (rest : List Char) :
    decodeBytes (encodeByte byte ++ rest) = byte :: decodeBytes rest := by
  have bounded : byte.toNat < 256 := byte.toNat_lt
  have high : hexValue (hexDigit (byte.toNat / 16)) = byte.toNat / 16 :=
    hex_value_digit _ (by omega)
  have low : hexValue (hexDigit (byte.toNat % 16)) = byte.toNat % 16 :=
    hex_value_digit _ (by omega)
  have whole : 16 * (byte.toNat / 16) + byte.toNat % 16 = byte.toNat := Nat.div_add_mod _ _
  simp only [encodeByte, List.cons_append, List.nil_append, decodeBytes, if_true, high, low, whole,
    UInt8.ofNat_toNat]

theorem decode_bytes_encoded (bytes : List UInt8) (rest : List Char) :
    decodeBytes (bytes.flatMap encodeByte ++ rest) = bytes ++ decodeBytes rest := by
  induction bytes with
  | nil => rfl
  | cons byte bytes induction =>
      rw [List.flatMap_cons, List.append_assoc, decode_byte, induction, List.cons_append]

theorem decode_plain {char : Char} (plain : char ≠ '%') (rest : List Char) :
    decodeBytes (char :: rest) = UInt8.ofNat char.toNat :: decodeBytes rest := by
  match rest with
  | [] => rfl
  | [_] => rfl
  | _ :: _ :: _ => rw [decodeBytes, if_neg plain]

theorem unreserved_bounds {char : Char} (unreserved : isUnreserved char = true) :
    char.toNat < 128 ∧ char ≠ '%' ∧ char ≠ ':' := by
  rcases Bool.or_eq_true _ _ ▸ unreserved with alphanumeric | mark
  · have letters : (65 ≤ char.toNat ∧ char.toNat ≤ 90) ∨ (97 ≤ char.toNat ∧ char.toNat ≤ 122) ∨
        (48 ≤ char.toNat ∧ char.toNat ≤ 57) := by
      change ((decide (char.val ≥ 65 ∧ char.val ≤ 90) ||
        decide (char.val ≥ 97) && decide (char.val ≤ 122)) ||
          decide (char.val ≥ 48) && decide (char.val ≤ 57)) = true at alphanumeric
      simp only [Bool.or_eq_true, Bool.and_eq_true, decide_eq_true_eq, ge_iff_le,
        UInt32.le_iff_toNat_le] at alphanumeric
      change ((65 ≤ char.toNat ∧ char.toNat ≤ 90) ∨ (97 ≤ char.toNat ∧ char.toNat ≤ 122)) ∨
        (48 ≤ char.toNat ∧ char.toNat ≤ 57) at alphanumeric
      omega
    refine ⟨by omega, ?_, ?_⟩
    · rintro rfl
      exact absurd letters (by decide)
    · rintro rfl
      exact absurd letters (by decide)
  · have listed : marks.all (fun mark => mark.toNat < 128 ∧ mark ≠ '%' ∧ mark ≠ ':') = true := by
      decide
    exact of_decide_eq_true (List.all_eq_true.1 listed char (of_decide_eq_true mark))

theorem utf8_of_ascii {char : Char} (ascii : char.toNat < 128) :
    String.utf8EncodeChar char = [UInt8.ofNat char.toNat] := by
  have single : char.utf8Size = 1 := by
    rw [Char.utf8Size_eq_one_iff]
    exact UInt32.le_iff_toNat_le.2 (Nat.lt_succ_iff.1 ascii)
  rw [String.utf8EncodeChar_eq_singleton single]
  rfl

theorem decode_char (char : Char) (rest : List Char) :
    decodeBytes (encodeChar char ++ rest) = String.utf8EncodeChar char ++ decodeBytes rest := by
  unfold encodeChar
  split
  · rename_i unreserved
    obtain ⟨ascii, plain, -⟩ := unreserved_bounds unreserved
    rw [utf8_of_ascii ascii, List.singleton_append, List.singleton_append, decode_plain plain]
  · exact decode_bytes_encoded _ _

theorem decode_encoded (chars : List Char) :
    decodeBytes (chars.flatMap encodeChar) = chars.flatMap String.utf8EncodeChar := by
  induction chars with
  | nil => rfl
  | cons char chars induction => rw [List.flatMap_cons, decode_char, induction, List.flatMap_cons]

theorem utf8_injective {first second : String}
    (same : first.toList.flatMap String.utf8EncodeChar =
      second.toList.flatMap String.utf8EncodeChar) : first = second := by
  have encoded : first.toList.utf8Encode = second.toList.utf8Encode := by
    rw [List.utf8Encode, same, List.utf8Encode]
  rwa [String.utf8Encode_toList, String.utf8Encode_toList, String.toByteArray_inj] at encoded

theorem encode_injective : Function.Injective encodeURIComponent := by
  intro first second same
  have texts : first.toList.flatMap encodeChar = second.toList.flatMap encodeChar :=
    String.ofList_injective same
  apply utf8_injective
  rw [← decode_encoded, texts, decode_encoded]

/-- Only `%` and unreserved characters are written. -/
theorem mem_encoded {text : String} {char : Char}
    (member : char ∈ (encodeURIComponent text).toList) : char = '%' ∨ isUnreserved char = true := by
  rw [encodeURIComponent, String.toList_ofList] at member
  obtain ⟨source, -, written⟩ := List.mem_flatMap.1 member
  unfold encodeChar at written
  split at written
  · rename_i unreserved
    rw [List.mem_singleton.1 written]
    exact .inr unreserved
  · obtain ⟨byte, -, written⟩ := List.mem_flatMap.1 written
    have bounded : byte.toNat < 256 := byte.toNat_lt
    simp only [encodeByte, List.mem_cons, List.not_mem_nil, or_false] at written
    rcases written with percent | rfl | rfl
    · exact .inl percent
    · exact .inr (by simp [isUnreserved, hex_digit_alphanum (byte.toNat / 16) (by omega)])
    · exact .inr (by simp [isUnreserved, hex_digit_alphanum (byte.toNat % 16) (by omega)])

theorem colon_not_mem_encoded (text : String) : ':' ∉ (encodeURIComponent text).toList := by
  intro colon
  rcases mem_encoded colon with percent | unreserved
  · exact absurd percent (by decide)
  · exact (unreserved_bounds unreserved).2.2 rfl

example : encodeURIComponent "a:%é" = "a%3A%25%C3%A9" := by decide +kernel

end LinkAlive.Percent
