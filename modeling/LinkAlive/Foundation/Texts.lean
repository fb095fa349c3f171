import Mathlib.Data.List.DropRight
import Mathlib.Algebra.GroupWithZero.Nat

/-!
# JavaScript strings

The operations on strings that the services use, on texts of well-formed Unicode: the length
and the code units are those of UTF-16.
-/

namespace LinkAlive

set_option autoImplicit false

/-- `String.prototype.length`, in UTF-16 code units. -/
def textLength (text : String) : Nat :=
  (text.toList.map fun char => if char.toNat < 0x10000 then 1 else 2).sum

/-- White space and line terminators, which `String.prototype.trim` removes. -/
def isBlank (char : Char) : Bool :=
  (0x09 ≤ char.toNat && char.toNat ≤ 0x0D) || (0x2000 ≤ char.toNat && char.toNat ≤ 0x200A) ||
    char.toNat ∈ [0x20, 0xA0, 0x1680, 0x2028, 0x2029, 0x202F, 0x205F, 0x3000, 0xFEFF]

def trimChars (chars : List Char) : List Char := (chars.dropWhile isBlank).rdropWhile isBlank

def trimText (text : String) : String := String.ofList (trimChars text.toList)

theorem trim_chars_twice (chars : List Char) : trimChars (trimChars chars) = trimChars chars := by
  unfold trimChars
  have front : ((chars.dropWhile isBlank).rdropWhile isBlank).dropWhile isBlank =
      (chars.dropWhile isBlank).rdropWhile isBlank := by
    obtain ⟨rest, split⟩ := List.rdropWhile_prefix isBlank (chars.dropWhile isBlank)
    cases shape : (chars.dropWhile isBlank).rdropWhile isBlank with
    | nil => rfl
    | cons first tail =>
        -- the first character is the first of what is left after the leading blanks
        have head : (chars.dropWhile isBlank).head? = some first := by
          rw [← split, shape]
          rfl
        have visible := List.head?_dropWhile_not isBlank chars
        rw [head] at visible
        exact List.dropWhile_cons_of_neg (by simpa using visible)
  rw [front, List.rdropWhile_idempotent]

@[simp] theorem trim_text_twice (text : String) : trimText (trimText text) = trimText text := by
  simp [trimText, trim_chars_twice]

/-- The characters of which `room` code units are left. -/
def sliceChars : List Char → Nat → List Char
  | [], _ => []
  | char :: rest, room =>
      let units := if char.toNat < 0x10000 then 1 else 2
      if units ≤ room then char :: sliceChars rest (room - units) else []

/-- `text.slice(0, count)`; a cut through a pair of code units leaves out its first half, which
is no character. -/
def sliceText (text : String) (count : Nat) : String :=
  String.ofList (sliceChars text.toList count)

theorem slice_text_length (text : String) (count : Nat) :
    textLength (sliceText text count) ≤ count := by
  have bounded : ∀ (chars : List Char) (room : Nat),
      ((sliceChars chars room).map fun char => if char.toNat < 0x10000 then 1 else 2).sum ≤
        room := by
    intro chars
    induction chars with
    | nil => intro room; exact Nat.zero_le _
    | cons char rest induction =>
        intro room
        rw [sliceChars]
        by_cases first : (if char.toNat < 0x10000 then 1 else 2) ≤ room
        · rw [if_pos first, List.map_cons, List.sum_cons]
          have tail := induction (room - if char.toNat < 0x10000 then 1 else 2)
          omega
        · rw [if_neg first]
          exact Nat.zero_le _
  rw [sliceText, textLength, String.toList_ofList]
  exact bounded text.toList count

/-- `String.prototype.toLowerCase`, for comparison with ASCII texts without a `k`. -/
def lowerText (text : String) : String := String.ofList (text.toList.map Char.toLower)

def codeUnits (text : String) : List Nat :=
  text.toList.flatMap fun char =>
    if char.toNat < 0x10000 then [char.toNat]
    else [0xD800 + (char.toNat - 0x10000) / 0x400, 0xDC00 + (char.toNat - 0x10000) % 0x400]

/-- The characters of code units; half of a pair that stands alone is no character. -/
def unitChars : List Nat → List Char
  | [] => []
  | [unit] => [Char.ofNat unit]
  | high :: low :: rest =>
      if 0xD800 ≤ high ∧ high < 0xDC00 ∧ 0xDC00 ≤ low ∧ low < 0xE000 then
        Char.ofNat (0x10000 + 0x400 * (high - 0xD800) + (low - 0xDC00)) :: unitChars rest
      else Char.ofNat high :: unitChars (low :: rest)

theorem unit_chars_single {unit : Nat} (plain : ¬(0xD800 ≤ unit ∧ unit < 0xDC00))
    (rest : List Nat) : unitChars (unit :: rest) = Char.ofNat unit :: unitChars rest := by
  cases rest with
  | nil => rfl
  | cons low rest => rw [unitChars, if_neg fun pair => plain ⟨pair.1, pair.2.1⟩]

theorem unit_chars_units (chars : List Char) :
    unitChars (chars.flatMap fun char =>
      if char.toNat < 0x10000 then [char.toNat]
      else [0xD800 + (char.toNat - 0x10000) / 0x400, 0xDC00 + (char.toNat - 0x10000) % 0x400]) =
        chars := by
  induction chars with
  | nil => rfl
  | cons char chars induction =>
      have valid : char.toNat.isValidChar := char.valid
      have bounds : char.toNat < 0x110000 ∧ ¬(0xD800 ≤ char.toNat ∧ char.toNat < 0xDC00) := by
        rcases valid with low | ⟨above, high⟩
        · omega
        · omega
      rw [List.flatMap_cons]
      split
      case isTrue =>
        rw [List.singleton_append, unit_chars_single bounds.2, induction, Char.ofNat_toNat]
      case isFalse above =>
        have whole : 0x10000 + 0x400 * (0xD800 + (char.toNat - 0x10000) / 0x400 - 0xD800) +
            (0xDC00 + (char.toNat - 0x10000) % 0x400 - 0xDC00) = char.toNat := by omega
        rw [List.cons_append, List.cons_append, List.nil_append, unitChars, if_pos (by omega),
          whole, induction, Char.ofNat_toNat]

theorem unit_chars_code_units (text : String) : unitChars (codeUnits text) = text.toList :=
  unit_chars_units text.toList

end LinkAlive
