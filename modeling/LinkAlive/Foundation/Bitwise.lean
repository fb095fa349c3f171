import Mathlib.Algebra.GroupWithZero.Nat

/-!
# Bitwise operators on 32-bit numbers

The operators of JavaScript, which read their operands modulo `2 ^ 32` and, but for the
unsigned shift, answer with a signed number; and blocks of numbers that have their leading
bits in common.
-/

namespace Bitwise

set_option autoImplicit false

def toUint32 (number : Int) : Nat := (number % 4294967296).toNat

def toInt32 (number : Int) : Int :=
  let unsigned : Int := toUint32 number
  if unsigned < 2147483648 then unsigned else unsigned - 4294967296

def shiftLeft (left : Int) (count : Nat) : Int :=
  toInt32 (toUint32 left <<< (count % 32) : Nat)

def shiftRight (left : Int) (count : Nat) : Nat := toUint32 left >>> (count % 32)

def or (left right : Int) : Int := toInt32 (toUint32 left ||| toUint32 right : Nat)

def and (left right : Int) : Int := toInt32 (toUint32 left &&& toUint32 right : Nat)

theorem to_uint32_of_nat {number : Nat} (small : number < 4294967296) :
    toUint32 number = number := by
  unfold toUint32
  omega

theorem to_uint32_mod (number : Nat) : toUint32 (number : Int) = number % 4294967296 := by
  unfold toUint32
  omega

theorem to_int32_of_nat {number : Nat} (small : number < 2147483648) :
    toInt32 number = number := by
  have unsigned : ((toUint32 number : Nat) : Int) = number :=
    congrArg Nat.cast (to_uint32_of_nat (by omega))
  have nonnegative : ((toUint32 number : Nat) : Int) < 2147483648 := by omega
  unfold toInt32
  dsimp only
  rw [if_pos nonnegative, unsigned]

/-- The sign does not change the bits. -/
theorem to_uint32_to_int32 (number : Int) : toUint32 (toInt32 number) = toUint32 number := by
  unfold toInt32 toUint32
  dsimp only
  split <;> omega

@[simp] theorem shift_right_zero (number : Int) : shiftRight number 0 = toUint32 number := rfl

@[simp] theorem to_uint32_shift_left (number : Int) (count : Nat) :
    toUint32 (shiftLeft number count) = (toUint32 number <<< (count % 32)) % 4294967296 := by
  rw [shiftLeft, to_uint32_to_int32, to_uint32_mod]

theorem or_lt {left right : Nat} (small : left < 4294967296) (other : right < 4294967296) :
    left ||| right < 4294967296 :=
  Nat.or_lt_two_pow (n := 32) small other

theorem to_uint32_lt (number : Int) : toUint32 number < 4294967296 := by
  unfold toUint32
  omega

@[simp] theorem to_uint32_or (left right : Int) :
    toUint32 (or left right) = toUint32 left ||| toUint32 right := by
  rw [or, to_uint32_to_int32, to_uint32_of_nat (or_lt (to_uint32_lt left) (to_uint32_lt right))]

@[simp] theorem to_uint32_and (left right : Int) :
    toUint32 (and left right) = toUint32 left &&& toUint32 right := by
  rw [and, to_uint32_to_int32, to_uint32_of_nat]
  exact Nat.lt_of_le_of_lt Nat.and_le_left (to_uint32_lt left)

theorem shift_or_byte {value byte : Nat} (small : value < 16777216) (fits : byte < 256) :
    shiftRight (or (shiftLeft value 8) byte) 0 = 256 * value + byte := by
  have shifted : value <<< 8 = 256 * value := by
    rw [Nat.shiftLeft_eq]
    omega
  rw [shift_right_zero, to_uint32_or, to_uint32_shift_left, to_uint32_of_nat (by omega),
    to_uint32_of_nat (by omega), show 8 % 32 = 8 from rfl, shifted,
    Nat.mod_eq_of_lt (by omega)]
  exact (Nat.two_pow_add_eq_or_of_lt (i := 8) fits value).symm

theorem shift_right_eq {value : Nat} (small : value < 4294967296) {count : Nat}
    (within : count < 32) : shiftRight value count = value / 2 ^ count := by
  rw [shiftRight, to_uint32_of_nat small, Nat.mod_eq_of_lt within, Nat.shiftRight_eq_div_pow]

theorem and_ones {value : Nat} (small : value < 4294967296) {count : Nat} (within : count < 32) :
    and value (2 ^ count - 1 : Nat) = (value % 2 ^ count : Nat) := by
  have powers : ∀ count < 32, 2 ^ count ≤ 2147483648 := by decide
  have low : value % 2 ^ count < 2147483648 :=
    Nat.lt_of_lt_of_le (Nat.mod_lt value (Nat.two_pow_pos count)) (powers count within)
  have ones : 2 ^ count - 1 < 4294967296 := by
    have power := powers count within
    omega
  rw [and, to_uint32_of_nat small, to_uint32_of_nat ones, Nat.and_two_pow_sub_one_eq_mod,
    to_int32_of_nat low]

theorem byte_at {value : Nat} (small : value < 4294967296) {count : Nat} (within : count < 32) :
    and (shiftRight value count) 255 = (value / 2 ^ count % 256 : Nat) := by
  have fits : value / 2 ^ count < 4294967296 := Nat.lt_of_le_of_lt (Nat.div_le_self _ _) small
  have ones := and_ones fits (by decide : 8 < 32)
  rw [show ((2 ^ 8 - 1 : Nat) : Int) = 255 from rfl, show 2 ^ 8 = 256 from rfl] at ones
  rw [shift_right_eq small within]
  exact ones

/-- The numbers of a width that agree with the base in their leading bits. -/
def InBlock (width : Nat) (base length value : Nat) : Prop :=
  base / 2 ^ (width - length) * 2 ^ (width - length) ≤ value ∧
    value < base / 2 ^ (width - length) * 2 ^ (width - length) + 2 ^ (width - length)

instance (width base length value : Nat) : Decidable (InBlock width base length value) :=
  inferInstanceAs (Decidable (_ ∧ _))

theorem in_block_iff_div {width base length value : Nat} :
    InBlock width base length value ↔
      value / 2 ^ (width - length) = base / 2 ^ (width - length) := by
  have positive : 0 < 2 ^ (width - length) := Nat.two_pow_pos _
  unfold InBlock
  rw [Nat.div_eq_iff positive]
  omega

theorem shift_eq_iff_in_block (width base length value : Nat) :
    value >>> (width - length) = base >>> (width - length) ↔
      InBlock width base length value := by
  rw [Nat.shiftRight_eq_div_pow, Nat.shiftRight_eq_div_pow, in_block_iff_div]

/-- `prefix === 0 ? 0 : (0xffffffff << (32 - prefix)) >>> 0` -/
def mask (length : Nat) : Nat :=
  if length = 0 then 0 else shiftRight (shiftLeft 0xffffffff (32 - length)) 0

theorem mask_eq {length : Nat} (within : length ≤ 32) :
    mask length = (2 ^ length - 1) * 2 ^ (32 - length) := by
  have all : ∀ length < 33, mask length = (2 ^ length - 1) * 2 ^ (32 - length) := by decide
  exact all length (Nat.lt_succ_of_le within)

theorem and_mask {value length : Nat} (small : value < 4294967296) (within : length ≤ 32) :
    value &&& mask length = value / 2 ^ (32 - length) * 2 ^ (32 - length) := by
  rw [mask_eq within]
  apply Nat.eq_of_testBit_eq
  intro bit
  rw [Nat.testBit_and, Nat.testBit_mul_two_pow, Nat.testBit_mul_two_pow,
    Nat.testBit_two_pow_sub_one, ← Nat.shiftRight_eq_div_pow, Nat.testBit_shiftRight]
  by_cases low : 32 - length ≤ bit
  · have back : 32 - length + (bit - (32 - length)) = bit := by omega
    rw [back]
    by_cases high : bit < 32
    · have leading : bit - (32 - length) < length := by omega
      simp [low, leading]
    · have wide : 2 ^ 32 ≤ 2 ^ bit := Nat.pow_le_pow_right (by decide) (by omega)
      have clear : value.testBit bit = false :=
        Nat.testBit_lt_two_pow (Nat.lt_of_lt_of_le small wide)
      simp [clear]
  · simp [low]

/-- Masking both sides compares the leading bits, for every length. -/
theorem masked_eq_iff_in_block {base length value : Nat} (small : value < 4294967296)
    (base_small : base < 4294967296) (within : length ≤ 32) :
    shiftRight (and value (mask length)) 0 = shiftRight (and base (mask length)) 0 ↔
      InBlock 32 base length value := by
  have masks : ∀ length < 33, mask length < 4294967296 := by decide
  have mask_small := masks length (Nat.lt_succ_of_le within)
  have positive : 0 < 2 ^ (32 - length) := Nat.two_pow_pos _
  rw [shift_right_zero, shift_right_zero, to_uint32_and, to_uint32_and, to_uint32_of_nat small,
    to_uint32_of_nat base_small, to_uint32_of_nat mask_small, and_mask small within,
    and_mask base_small within, in_block_iff_div]
  exact Nat.mul_left_inj (Nat.ne_of_gt positive)

end Bitwise
