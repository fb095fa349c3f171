import Mathlib.Data.List.Infix
import LinkAlive.Foundation.Texts

/-!
# A decoder of UTF-8

The decoder of the Encoding Standard, byte by byte: what is malformed becomes U+FFFD, a byte
that ends a malformed sequence is read again as a first byte, and a byte order mark at the
start is dropped.
-/

namespace LinkAlive.Utf8

set_option autoImplicit false

/-- What a sequence still needs, and the bounds of its next byte. -/
structure Sequence where
  needed : Nat
  value : Nat
  lower : Nat
  upper : Nat
deriving DecidableEq, Repr

def complete : Sequence := ⟨0, 0, 0x80, 0xBF⟩

def replacement : Nat := 0xFFFD

def byteOrderMark : Nat := 0xFEFF

def firstByte (byte : Nat) : List Nat × Sequence :=
  if byte ≤ 0x7F then ([byte], complete)
  else if 0xC2 ≤ byte ∧ byte ≤ 0xDF then ([], { complete with needed := 1, value := byte % 0x20 })
  else if 0xE0 ≤ byte ∧ byte ≤ 0xEF then
    ([], {
      needed := 2
      value := byte % 0x10
      lower := if byte = 0xE0 then 0xA0 else 0x80
      upper := if byte = 0xED then 0x9F else 0xBF })
  else if 0xF0 ≤ byte ∧ byte ≤ 0xF4 then
    ([], {
      needed := 3
      value := byte % 0x8
      lower := if byte = 0xF0 then 0x90 else 0x80
      upper := if byte = 0xF4 then 0x8F else 0xBF })
  else ([replacement], complete)

def pushByte (sequence : Sequence) (byte : Nat) : List Nat × Sequence :=
  if sequence.needed = 0 then firstByte byte
  else if byte < sequence.lower ∨ sequence.upper < byte then
    let (scalars, next) := firstByte byte
    (replacement :: scalars, next)
  else
    let value := 0x40 * sequence.value + byte % 0x40
    if sequence.needed = 1 then ([value], complete)
    else ([], { complete with needed := sequence.needed - 1, value })

def pushBytes : Sequence → List UInt8 → List Nat × Sequence
  | sequence, [] => ([], sequence)
  | sequence, byte :: rest =>
      let (first, next) := pushByte sequence byte.toNat
      let (others, last) := pushBytes next rest
      (first ++ others, last)

/-- What the end of the input leaves of an unfinished sequence. -/
def finish (sequence : Sequence) : List Nat := if sequence.needed = 0 then [] else [replacement]

/-- Only the first scalar value of the input may be a byte order mark. -/
def stripMark (started : Bool) : List Nat → List Nat × Bool
  | [] => ([], started)
  | scalar :: rest =>
      (if !started && scalar == byteOrderMark then rest else scalar :: rest, true)

def utf16Units (scalar : Nat) : List Nat :=
  if scalar < 0x10000 then [scalar]
  else [0xD800 + (scalar - 0x10000) / 0x400, 0xDC00 + (scalar - 0x10000) % 0x400]

structure State where
  sequence : Sequence
  started : Bool
deriving DecidableEq, Repr

def fresh : State := ⟨complete, false⟩

/-- With `more` an unfinished sequence waits for the next call; without it the decoder ends
and starts anew. -/
def decode (state : State) (bytes : List UInt8) (more : Bool) : List Nat × State :=
  let (scalars, sequence) := pushBytes state.sequence bytes
  let scalars := if more then scalars else scalars ++ finish sequence
  let (kept, started) := stripMark state.started scalars
  (kept.flatMap utf16Units, if more then ⟨sequence, started⟩ else fresh)

theorem push_bytes_append (sequence : Sequence) (first second : List UInt8) :
    pushBytes sequence (first ++ second) =
      ((pushBytes sequence first).1 ++ (pushBytes (pushBytes sequence first).2 second).1,
        (pushBytes (pushBytes sequence first).2 second).2) := by
  induction first generalizing sequence with
  | nil => simp [pushBytes]
  | cons byte first induction => simp [pushBytes, induction]

theorem strip_mark_append (started : Bool) (first second : List Nat) :
    stripMark started (first ++ second) =
      ((stripMark started first).1 ++ (stripMark (stripMark started first).2 second).1,
        (stripMark (stripMark started first).2 second).2) := by
  cases first with
  | nil => simp [stripMark]
  | cons scalar first =>
      cases second with
      | nil => simp [stripMark]
      | cons =>
          simp only [stripMark, List.cons_append, Bool.not_true, Bool.false_and,
            Bool.false_eq_true, if_false]
          split <;> rfl

/-- A call with the flag and then another decode as one call does. -/
theorem decode_append (state : State) (first second : List UInt8) (more : Bool) :
    (decode state first true).1 ++ (decode (decode state first true).2 second more).1 =
        (decode state (first ++ second) more).1 ∧
      (decode (decode state first true).2 second more).2 =
        (decode state (first ++ second) more).2 := by
  cases more <;>
    simp [decode, push_bytes_append, strip_mark_append, List.append_assoc, List.flatMap_append]

/-- The mark is dropped, and a lead byte without its second byte is replaced. -/
example : (decode fresh [0xEF, 0xBB, 0xBF, 0x61, 0xC3, 0x28] false).1 = [0x61, 0xFFFD, 0x28] := by
  decide

theorem decode_resets (state : State) (bytes : List UInt8) :
    (decode state bytes false).2 = fresh := by
  simp [decode]

def encodeScalar (scalar : Nat) : List UInt8 :=
  if scalar < 0x80 then [UInt8.ofNat scalar]
  else if scalar < 0x800 then
    [UInt8.ofNat (0xC0 + scalar / 0x40), UInt8.ofNat (0x80 + scalar % 0x40)]
  else if scalar < 0x10000 then
    [UInt8.ofNat (0xE0 + scalar / 0x1000), UInt8.ofNat (0x80 + scalar / 0x40 % 0x40),
      UInt8.ofNat (0x80 + scalar % 0x40)]
  else
    [UInt8.ofNat (0xF0 + scalar / 0x40000), UInt8.ofNat (0x80 + scalar / 0x1000 % 0x40),
      UInt8.ofNat (0x80 + scalar / 0x40 % 0x40), UInt8.ofNat (0x80 + scalar % 0x40)]

def encode (text : String) : List UInt8 :=
  text.toList.flatMap fun char => encodeScalar char.toNat

def scalars (bytes : List UInt8) : List Nat :=
  let (values, sequence) := pushBytes complete bytes
  values ++ finish sequence

def text (bytes : List UInt8) : String := String.ofList ((scalars bytes).map Char.ofNat)

theorem byte_value {value : Nat} (small : value < 256) : (UInt8.ofNat value).toNat = value :=
  UInt8.toNat_ofNat_of_lt small

theorem push_complete (byte : Nat) : pushByte complete byte = firstByte byte := rfl

theorem push_continuation {needed value lower upper byte : Nat} (low : lower ≤ byte)
    (high : byte ≤ upper) :
    pushByte ⟨needed + 1, value, lower, upper⟩ byte =
      if needed = 0 then ([0x40 * value + byte % 0x40], complete)
      else ([], { complete with needed := needed, value := 0x40 * value + byte % 0x40 }) := by
  have inside : ¬(byte < lower ∨ upper < byte) := by omega
  rw [pushByte, if_neg (Nat.succ_ne_zero needed), if_neg inside]
  simp only [Nat.add_eq_right, Nat.add_sub_cancel]

/-- The bytes of a scalar value bring it back, whatever follows them. -/
theorem push_encoded {scalar : Nat} (valid : scalar.isValidChar) (rest : List UInt8) :
    pushBytes complete (encodeScalar scalar ++ rest) =
      (scalar :: (pushBytes complete rest).1, (pushBytes complete rest).2) := by
  have bounded : scalar < 0x110000 ∧ (scalar < 0xD800 ∨ 0xDFFF < scalar) := by
    rcases valid with low | ⟨above, high⟩
    · exact ⟨by omega, .inl low⟩
    · exact ⟨high, .inr above⟩
  rw [encodeScalar]
  split
  case isTrue one =>
    have first : pushByte complete scalar = ([scalar], complete) := by
      rw [push_complete, firstByte, if_pos (by omega)]
    simp only [List.cons_append, List.nil_append, pushBytes]
    rw [byte_value (by omega), first]
    rfl
  split
  case isTrue above two =>
    have first : pushByte complete (0xC0 + scalar / 0x40) =
        ([], ⟨1, scalar / 0x40, 0x80, 0xBF⟩) := by
      have low : (0xC0 + scalar / 0x40) % 0x20 = scalar / 0x40 := by omega
      rw [push_complete, firstByte, if_neg (by omega), if_pos (by omega), low]
      rfl
    have second : pushByte ⟨1, scalar / 0x40, 0x80, 0xBF⟩ (0x80 + scalar % 0x40) =
        ([scalar], complete) := by
      have whole : 0x40 * (scalar / 0x40) + (0x80 + scalar % 0x40) % 0x40 = scalar := by omega
      rw [push_continuation (by omega) (by omega), if_pos rfl, whole]
    simp only [List.cons_append, List.nil_append, pushBytes]
    rw [byte_value (by omega), byte_value (by omega), first]
    dsimp only
    rw [second]
    rfl
  split
  case isTrue above high three =>
    -- the bounds of the second byte keep out what is too long and the surrogates
    have first : pushByte complete (0xE0 + scalar / 0x1000) =
        ([], ⟨2, scalar / 0x1000, if scalar / 0x1000 = 0 then 0xA0 else 0x80,
          if scalar / 0x1000 = 0xD then 0x9F else 0xBF⟩) := by
      have low : (0xE0 + scalar / 0x1000) % 0x10 = scalar / 0x1000 := by omega
      rw [push_complete, firstByte, if_neg (by omega), if_neg (by omega), if_pos (by omega), low]
      simp only [Nat.add_eq_left, show 0xE0 + scalar / 0x1000 = 0xED ↔
        scalar / 0x1000 = 0xD by omega]
    have second : pushByte ⟨2, scalar / 0x1000, if scalar / 0x1000 = 0 then 0xA0 else 0x80,
        if scalar / 0x1000 = 0xD then 0x9F else 0xBF⟩ (0x80 + scalar / 0x40 % 0x40) =
          ([], ⟨1, scalar / 0x40, 0x80, 0xBF⟩) := by
      have whole : 0x40 * (scalar / 0x1000) + (0x80 + scalar / 0x40 % 0x40) % 0x40 =
          scalar / 0x40 := by omega
      rw [push_continuation (by split <;> omega) (by split <;> omega), if_neg (by omega), whole]
      rfl
    have third : pushByte ⟨1, scalar / 0x40, 0x80, 0xBF⟩ (0x80 + scalar % 0x40) =
        ([scalar], complete) := by
      have whole : 0x40 * (scalar / 0x40) + (0x80 + scalar % 0x40) % 0x40 = scalar := by omega
      rw [push_continuation (by omega) (by omega), if_pos rfl, whole]
    simp only [List.cons_append, List.nil_append, pushBytes]
    rw [byte_value (by omega), byte_value (by omega), byte_value (by omega), first]
    dsimp only
    rw [second]
    dsimp only
    rw [third]
    rfl
  case isFalse above high four =>
    have first : pushByte complete (0xF0 + scalar / 0x40000) =
        ([], ⟨3, scalar / 0x40000, if scalar / 0x40000 = 0 then 0x90 else 0x80,
          if scalar / 0x40000 = 4 then 0x8F else 0xBF⟩) := by
      have low : (0xF0 + scalar / 0x40000) % 0x8 = scalar / 0x40000 := by omega
      rw [push_complete, firstByte, if_neg (by omega), if_neg (by omega), if_neg (by omega),
        if_pos (by omega), low]
      simp only [Nat.add_eq_left, show 0xF0 + scalar / 0x40000 = 0xF4 ↔
        scalar / 0x40000 = 4 by omega]
    have second : pushByte ⟨3, scalar / 0x40000, if scalar / 0x40000 = 0 then 0x90 else 0x80,
        if scalar / 0x40000 = 4 then 0x8F else 0xBF⟩ (0x80 + scalar / 0x1000 % 0x40) =
          ([], ⟨2, scalar / 0x1000, 0x80, 0xBF⟩) := by
      have whole : 0x40 * (scalar / 0x40000) + (0x80 + scalar / 0x1000 % 0x40) % 0x40 =
          scalar / 0x1000 := by omega
      rw [push_continuation (by split <;> omega) (by split <;> omega), if_neg (by omega), whole]
      rfl
    have third : pushByte ⟨2, scalar / 0x1000, 0x80, 0xBF⟩ (0x80 + scalar / 0x40 % 0x40) =
        ([], ⟨1, scalar / 0x40, 0x80, 0xBF⟩) := by
      have whole : 0x40 * (scalar / 0x1000) + (0x80 + scalar / 0x40 % 0x40) % 0x40 =
          scalar / 0x40 := by omega
      rw [push_continuation (by omega) (by omega), if_neg (by omega), whole]
      rfl
    have fourth : pushByte ⟨1, scalar / 0x40, 0x80, 0xBF⟩ (0x80 + scalar % 0x40) =
        ([scalar], complete) := by
      have whole : 0x40 * (scalar / 0x40) + (0x80 + scalar % 0x40) % 0x40 = scalar := by omega
      rw [push_continuation (by omega) (by omega), if_pos rfl, whole]
    simp only [List.cons_append, List.nil_append, pushBytes]
    rw [byte_value (by omega), byte_value (by omega), byte_value (by omega),
      byte_value (by omega), first]
    dsimp only
    rw [second]
    dsimp only
    rw [third]
    dsimp only
    rw [fourth]
    rfl

theorem push_encoded_chars (chars : List Char) :
    pushBytes complete (chars.flatMap fun char => encodeScalar char.toNat) =
      (chars.map Char.toNat, complete) := by
  induction chars with
  | nil => rfl
  | cons char chars induction =>
      have valid : char.toNat.isValidChar := char.valid
      rw [List.flatMap_cons, push_encoded valid, induction, List.map_cons]

theorem text_encode (source : String) : text (encode source) = source := by
  rw [text, scalars, encode, push_encoded_chars]
  have ended : finish complete = [] := rfl
  have same : source.toList.map (Char.ofNat ∘ Char.toNat) = source.toList := by
    rw [show Char.ofNat ∘ Char.toNat = id from funext Char.ofNat_toNat, List.map_id]
  dsimp only
  rw [ended, List.append_nil, List.map_map, same, String.ofList_toList]

theorem encode_eq_nil {source : String} : encode source = [] ↔ source = "" := by
  constructor
  · intro empty
    rw [← text_encode source, empty]
    rfl
  · intro empty
    rw [empty]
    rfl

end LinkAlive.Utf8
