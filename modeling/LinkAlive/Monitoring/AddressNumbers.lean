import LinkAlive.Foundation.AddressText
import LinkAlive.Monitoring.Addresses

/-!
# The verdict depends on the number alone

What `ipv4ToNumber` and `parseIpv6` return for a textual address, in every form that it can
have, and from that the verdict of `isPublicAddress`: a block is a range of numbers.
-/

namespace LinkAlive.Monitoring

set_option autoImplicit false

open AddressText Bitwise

theorem decimal_digit {number : Nat} {char : Char} (member : char ∈ decimal number) :
    char.isDigit = true :=
  Nat.isDigit_of_mem_toDigits (by decide) (by decide) member

@[simp] theorem decimal_value_decimal (number : Nat) : decimalValue (decimal number) = number :=
  Nat.ofDigitChars_eq_foldl.symm.trans Nat.ofDigitChars_ten_toDigits

theorem decimal_octet {octet : Nat} (small : octet < 256) :
    (decimal octet).length ∈ [1, 2, 3] := by
  have positive : 0 < (decimal octet).length := Nat.length_toDigits_pos
  have short : (decimal octet).length ≤ 3 :=
    (Nat.length_toDigits_le_iff (by decide) (by decide)).2 (by omega)
  simp only [List.mem_cons, List.not_mem_nil, or_false]
  omega

theorem dot_not_mem_decimal (number : Nat) : '.' ∉ decimal number := fun member =>
  absurd (decimal_digit member) (by decide)

theorem add_octet_decimal {value octet : Nat} (room : value < 16777216) (small : octet < 256) :
    addOctet value (decimal octet) = .ok (256 * value + octet) := by
  have length := decimal_octet small
  have digits : (decimal octet).all Char.isDigit = true :=
    List.all_eq_true.2 fun char member => decimal_digit member
  have accepted : ¬((decimal octet).length ∉ [1, 2, 3] ∨ !(decimal octet).all Char.isDigit) := by
    simp [length, digits]
  rw [addOctet, if_neg accepted, decimal_value_decimal, if_neg (by omega),
    shift_or_byte room small]

theorem ipv4_of_quad {text : List Char} {value : Nat} (quad : Quad text value) :
    ipv4ToNumber text = .ok value := by
  cases quad with
  | dotted first second third fourth small₁ small₂ small₃ small₄ =>
      have parts : (joined '.' [decimal first, decimal second, decimal third,
          decimal fourth]).splitOn '.' =
            [decimal first, decimal second, decimal third, decimal fourth] :=
        List.splitOn_intercalate '.' (by simp [dot_not_mem_decimal]) (List.cons_ne_nil _ _)
      simp only [ipv4ToNumber, parts, List.length_cons, List.length_nil, ne_eq, not_true_eq_false,
        if_false, List.foldlM_cons, List.foldlM_nil]
      rw [add_octet_decimal (by omega) small₁]
      dsimp only [bind, Except.bind]
      rw [add_octet_decimal (by omega) small₂]
      dsimp only
      rw [add_octet_decimal (by omega) small₃]
      dsimp only
      rw [add_octet_decimal (by omega) small₄]
      dsimp only [pure, Except.pure]
      rw [shift_right_zero, to_uint32_of_nat (by omega), quadValue, Nat.mul_zero, Nat.zero_add]

/-- A mapped address is written as the quad of its last 32 bits. -/
theorem mapped_eq {value number : Nat} (small : number < 4294967296)
    (mapped : value = 65535 * 4294967296 + number) :
    ∃ text, mappedIpv4 value = some text ∧ Quad text number := by
  have high : value >>> 32 = 0xffff := by
    rw [Nat.shiftRight_eq_div_pow, mapped]
    omega
  have low : value &&& 0xffffffff = number := by
    rw [show 0xffffffff = 2 ^ 32 - 1 from rfl, Nat.and_two_pow_sub_one_eq_mod, mapped]
    omega
  have text (number : Nat) : (toString (number : Int)).toList = decimal number :=
    Nat.toList_repr
  have last : Bitwise.and number 255 = (number % 256 : Nat) := by
    have byte := byte_at small (by decide : 0 < 32)
    rwa [shift_right_zero, to_uint32_of_nat small, Nat.pow_zero, Nat.div_one] at byte
  refine ⟨_, ?_, quad_of_bytes small⟩
  simp only [mappedIpv4, high, low, ne_eq, not_true_eq_false, if_false, joinNumbers,
    byte_at small (by decide : 16 < 32), byte_at small (by decide : 8 < 32), last,
    shift_right_eq small (by decide : 24 < 32), List.map_cons, List.map_nil, text]
  rfl

theorem mapped_none {value : Nat} (other : value / 4294967296 ≠ 65535) :
    mappedIpv4 value = none := by
  have high : value >>> 32 ≠ 0xffff := by
    rw [Nat.shiftRight_eq_div_pow]
    exact other
  rw [mappedIpv4, if_pos high]

/-- The listed IPv4 blocks, as the first number and the length. -/
def reservedIpv4 : List (Nat × Nat) :=
  [(quadValue 0 0 0 0, 8), (quadValue 10 0 0 0, 8), (quadValue 100 64 0 0, 10),
    (quadValue 127 0 0 0, 8), (quadValue 169 254 0 0, 16), (quadValue 172 16 0 0, 12),
    (quadValue 192 0 0 0, 24), (quadValue 192 0 2 0, 24), (quadValue 192 88 99 0, 24),
    (quadValue 192 168 0 0, 16), (quadValue 198 18 0 0, 15), (quadValue 198 51 100 0, 24),
    (quadValue 203 0 113 0, 24), (quadValue 224 0 0 0, 4), (quadValue 240 0 0 0, 4)]

def cidr4 (base length : Nat) : Cidr4 :=
  ⟨shiftRight (Bitwise.and base (mask length)) 0, mask length⟩

/-- Every block that can be written is parsed to its base and its mask. -/
theorem parse_cidr4_of_quad {address : List Char} {base : Nat} (quad : Quad address base)
    (length : Nat) :
    parseCidr4 (address ++ '/' :: decimal length) = .ok (cidr4 base length) := by
  have text : (address ++ '/' :: decimal length).splitOn '/' = [address, decimal length] := by
    have slash : '/' ∉ address := by
      intro member
      cases quad
      rcases mem_joined member with dot | ⟨octet, among, inside⟩
      · exact absurd dot (by decide)
      · have digit : '/'.isDigit = true := by
          simp only [List.mem_cons, List.not_mem_nil, or_false] at among
          rcases among with rfl | rfl | rfl | rfl <;> exact decimal_digit inside
        exact absurd digit (by decide)
    have other : '/' ∉ decimal length := fun member =>
      absurd (decimal_digit member) (by decide)
    have split : (['/'].intercalate [address, decimal length]).splitOn '/' =
        [address, decimal length] :=
      List.splitOn_intercalate '/' (by simp [slash, other]) (List.cons_ne_nil _ _)
    rwa [List.intercalate_cons_cons, List.intercalate_singleton, List.append_assoc,
      List.singleton_append] at split
  simp only [parseCidr4, text, List.headD_cons, List.getD_cons_succ, List.getD_cons_zero,
    decimal_value_decimal, ipv4_of_quad quad]
  rfl

/-- The signed operators decide membership in the range of numbers. -/
theorem cidr4_covers_iff {base length value : Nat} (small : value < 4294967296)
    (base_small : base < 4294967296) (within : length ≤ 32) :
    (cidr4 base length).covers value = true ↔ InBlock 32 base length value := by
  rw [Cidr4.covers, decide_eq_true_eq]
  exact masked_eq_iff_in_block small base_small within

theorem blocked_ipv4_cidrs_eq :
    blockedIpv4Cidrs = .ok (reservedIpv4.map fun block => cidr4 block.1 block.2) := by
  decide +kernel

def InBlocks (width : Nat) (blocks : List (Nat × Nat)) (value : Nat) : Prop :=
  ∃ block ∈ blocks, InBlock width block.1 block.2 value

theorem is_blocked_ipv4_of_quad {text : List Char} {value : Nat} (quad : Quad text value) :
    ∃ blocked, isBlockedIpv4 text = .ok blocked ∧
      (blocked = true ↔ InBlocks 32 reservedIpv4 value) := by
  have well_formed : ∀ block ∈ reservedIpv4, block.1 < 4294967296 ∧ block.2 ≤ 32 := by decide
  rw [isBlockedIpv4, blocked_ipv4_cidrs_eq, ipv4_of_quad quad]
  refine ⟨_, rfl, ?_⟩
  rw [List.any_map, List.any_eq_true]
  refine exists_congr fun block => and_congr_right fun listed => ?_
  obtain ⟨base_small, within⟩ := well_formed block listed
  rw [Function.comp_apply]
  exact cidr4_covers_iff quad.value_lt base_small within

/-- A group as the parser sees it, in lower case. -/
structure LowerGroup (text : List Char) (value : Nat) : Prop where
  length : text.length ∈ [1, 2, 3, 4]
  digits : ∀ char ∈ text, isHexDigit char = true
  number : hexValue text = value
  small : value < 65536

theorem hex_digit_lower {char : Char} {value : Nat} (digit : HexDigit char value) :
    isHexDigit char.toLower = true ∧ hexDigitValue char.toLower = value := by
  have digits : ∀ value < 10,
      isHexDigit (Char.ofNat ('0'.toNat + value)).toLower = true ∧
        hexDigitValue (Char.ofNat ('0'.toNat + value)).toLower = value := by
    decide
  have lower : ∀ value < 6,
      isHexDigit (Char.ofNat ('a'.toNat + value)).toLower = true ∧
        hexDigitValue (Char.ofNat ('a'.toNat + value)).toLower = 10 + value := by
    decide
  have upper : ∀ value < 6,
      isHexDigit (Char.ofNat ('A'.toNat + value)).toLower = true ∧
        hexDigitValue (Char.ofNat ('A'.toNat + value)).toLower = 10 + value := by
    decide
  cases digit with
  | digit value small => exact digits value small
  | lower value small => exact lower value small
  | upper value small => exact upper value small

theorem hex_digits_lower {text : List Char} {value : Nat} (digits : HexDigits text value) :
    (∀ char ∈ text.map Char.toLower, isHexDigit char = true) ∧
      hexValue (text.map Char.toLower) = value := by
  induction digits with
  | nil => exact ⟨by simp, rfl⟩
  | snoc _ digit ih =>
      obtain ⟨valid, number⟩ := hex_digit_lower digit
      rw [List.map_append, List.map_singleton]
      refine ⟨?_, ?_⟩
      · intro char member
        rcases List.mem_append.1 member with early | last
        · exact ih.1 char early
        · rw [List.mem_singleton.1 last]
          exact valid
      · rw [hexValue, List.foldl_append, ← hexValue, ih.2, List.foldl_cons, List.foldl_nil, number]

theorem group_lower {text : List Char} {value : Nat} (group : Group text value) :
    LowerGroup (text.map Char.toLower) value where
  length := by
    have positive := List.length_pos_of_ne_nil group.nonempty
    have short := group.short
    simp only [List.length_map, List.mem_cons, List.not_mem_nil, or_false]
    omega
  digits := (hex_digits_lower group.digits).1
  number := (hex_digits_lower group.digits).2
  small := group.value_lt

theorem groups_lower {texts : List (List Char)} {values : List Nat}
    (groups : List.Forall₂ Group texts values) :
    List.Forall₂ LowerGroup (texts.map (List.map Char.toLower)) values := by
  induction groups with
  | nil => exact .nil
  | cons group _ ih => exact .cons (group_lower group) ih

theorem lower_group_of_number {number : Nat} (small : number < 65536) :
    LowerGroup (hexadecimal number) number := by
  have group := group_lower (group_of_number small)
  rwa [hexadecimal_lower] at group

theorem lower_zero : LowerGroup ['0'] 0 where
  length := by decide
  digits char member := by
    rw [List.mem_singleton.1 member]
    rfl
  number := rfl
  small := by decide

theorem LowerGroup.ne_nil {text : List Char} {value : Nat} (group : LowerGroup text value) :
    text ≠ [] := by
  rintro rfl
  exact absurd group.length (by decide)

theorem LowerGroup.not_mem {text : List Char} {value : Nat} (group : LowerGroup text value)
    {char : Char} (other : isHexDigit char = false) : char ∉ text := fun member =>
  Bool.false_ne_true (other.symm.trans (group.digits char member))

theorem add_group {start value : Nat} {text : List Char} (group : LowerGroup text value) :
    addGroup start text = .ok (65536 * start + value) := by
  have digits : text.all isHexDigit = true := List.all_eq_true.2 group.digits
  have accepted : ¬(text.length ∉ [1, 2, 3, 4] ∨ !text.all isHexDigit) := by
    simp [group.length, digits]
  have shifted : start <<< 16 = 2 ^ 16 * start := by
    rw [Nat.shiftLeft_eq, Nat.mul_comm]
  rw [addGroup, if_neg accepted, group.number, shifted,
    ← Nat.two_pow_add_eq_or_of_lt group.small]

theorem add_groups {texts : List (List Char)} {values : List Nat}
    (groups : List.Forall₂ LowerGroup texts values) (start : Nat) :
    texts.foldlM addGroup start =
      .ok (values.foldl (fun value word => 65536 * value + word) start) := by
  induction groups generalizing start with
  | nil => rfl
  | cons group _ ih =>
      rw [List.foldlM_cons, add_group group]
      exact ih _

def Separable (texts : List (List Char)) : Prop := ∀ text ∈ texts, text ≠ [] ∧ ':' ∉ text

theorem mem_lower_groups {texts : List (List Char)} {values : List Nat}
    (groups : List.Forall₂ LowerGroup texts values) {text : List Char} (member : text ∈ texts) :
    ∃ value, LowerGroup text value := by
  induction groups with
  | nil => cases member
  | @cons _ value _ _ group _ ih =>
      rcases List.mem_cons.1 member with rfl | later
      · exact ⟨value, group⟩
      · exact ih later

theorem separable_groups {texts : List (List Char)} {values : List Nat}
    (groups : List.Forall₂ LowerGroup texts values) : Separable texts := by
  intro text member
  obtain ⟨value, group⟩ := mem_lower_groups groups member
  exact ⟨group.ne_nil, group.not_mem (by decide)⟩

/-- A character that starts no `::` belongs to the first half. -/
theorem split_double_cons {first : Char} {rest : List Char}
    (single : first ≠ ':' ∨ rest.head? ≠ some ':') :
    splitDouble (first :: rest) = (splitDouble rest).modifyHead (List.cons first) := by
  cases rest with
  | nil => rfl
  | cons second rest =>
      have apart : ¬(first = ':' ∧ second = ':') := by
        rintro ⟨rfl, rfl⟩
        exact single.elim (fun differs => differs rfl) (fun differs => differs rfl)
      rw [splitDouble, if_neg apart]

theorem split_double_append {text : List Char} (colonless : ':' ∉ text) (rest : List Char) :
    splitDouble (text ++ rest) = (splitDouble rest).modifyHead (text ++ ·) := by
  induction text with
  | nil => exact (congrFun List.modifyHead_id _).symm
  | cons first more ih =>
      rw [List.mem_cons, not_or] at colonless
      rw [List.cons_append, split_double_cons (.inl (Ne.symm colonless.1)), ih colonless.2,
        List.modifyHead_modifyHead]
      rfl

/-- Between groups there are single colons only. -/
theorem split_double_joined {texts : List (List Char)} (separable : Separable texts)
    (rest : List Char) :
    splitDouble (joined ':' texts ++ rest) =
      (splitDouble rest).modifyHead (joined ':' texts ++ ·) := by
  induction texts with
  | nil => exact (congrFun List.modifyHead_id _).symm
  | cons first texts ih =>
      have colonless := (separable first List.mem_cons_self).2
      have later : Separable texts := fun text member =>
        separable text (List.mem_cons_of_mem _ member)
      cases texts with
      | nil =>
          rw [joined_singleton]
          exact split_double_append colonless rest
      | cons second texts =>
          obtain ⟨nonempty, start⟩ := later second List.mem_cons_self
          have head : (joined ':' (second :: texts) ++ rest).head? ≠ some ':' := by
            obtain ⟨char, chars, rfl⟩ := List.exists_cons_of_ne_nil nonempty
            have differs : char ≠ ':' := fun same => start (same ▸ List.mem_cons_self)
            cases texts with
            | nil => simpa using differs
            | cons third texts => simpa [joined_cons_cons] using differs
          rw [joined_cons_cons, List.append_assoc, split_double_append colonless,
            List.cons_append, split_double_cons (.inr head), ih later,
            List.modifyHead_modifyHead, List.modifyHead_modifyHead]
          congr 1
          funext half
          simp

theorem groups_of_joined {texts : List (List Char)} (separable : Separable texts) :
    groupsOf (joined ':' texts) = texts := by
  cases texts with
  | nil => rfl
  | cons first texts =>
      have nonempty : joined ':' (first :: texts) ≠ [] := by
        have some_char := (separable first List.mem_cons_self).1
        cases texts with
        | nil => simpa using some_char
        | cons second texts => simp [joined_cons_cons]
      rw [groupsOf, if_neg nonempty]
      exact List.splitOn_intercalate ':' (fun text member => (separable text member).2)
        (List.cons_ne_nil _ _)

/-- The text of an address without a zone, a dotted quad and upper case. -/
inductive Grouped : List Char → List Nat → Prop
  | full {texts : List (List Char)} {values : List Nat} :
      List.Forall₂ LowerGroup texts values → values.length = 8 →
        Grouped (joined ':' texts) values
  | short {left right : List (List Char)} {leftValues rightValues : List Nat} :
      List.Forall₂ LowerGroup left leftValues → List.Forall₂ LowerGroup right rightValues →
        leftValues.length + rightValues.length ≤ 7 →
          Grouped (joined ':' left ++ ':' :: ':' :: joined ':' right)
            (leftValues ++
              List.replicate (8 - leftValues.length - rightValues.length) 0 ++ rightValues)

theorem zero_groups (count : Nat) :
    List.Forall₂ LowerGroup (List.replicate count ['0']) (List.replicate count 0) := by
  induction count with
  | zero => exact .nil
  | succ count ih => exact .cons lower_zero ih

/-- The zeros are filled in where they were left out. -/
theorem all_groups {address : List Char} {words : List Nat} (grouped : Grouped address words) :
    ∃ texts, allGroups address = .ok texts ∧ List.Forall₂ LowerGroup texts words := by
  cases grouped with
  | @full texts _ groups eight =>
      have separable := separable_groups groups
      have halves : splitDouble (joined ':' texts) = [joined ':' texts] := by
        have split := split_double_joined separable []
        rw [List.append_nil] at split
        rw [split, splitDouble, List.modifyHead_cons, List.append_nil]
      have count : texts.length = 8 := groups.length_eq.trans eight
      refine ⟨texts, ?_, groups⟩
      simp [allGroups, halves, groups_of_joined separable, count]
  | @short left right leftValues rightValues leftGroups rightGroups few =>
      have left_separable := separable_groups leftGroups
      have right_separable := separable_groups rightGroups
      have right_half : splitDouble (joined ':' right) = [joined ':' right] := by
        have split := split_double_joined right_separable []
        rw [List.append_nil] at split
        rw [split, splitDouble, List.modifyHead_cons, List.append_nil]
      have halves : splitDouble (joined ':' left ++ ':' :: ':' :: joined ':' right) =
          [joined ':' left, joined ':' right] := by
        rw [split_double_joined left_separable, splitDouble, if_pos ⟨rfl, rfl⟩, right_half,
          List.modifyHead_cons, List.append_nil]
      have left_length : left.length = leftValues.length := leftGroups.length_eq
      have right_length : right.length = rightValues.length := rightGroups.length_eq
      have zeros : ((8 : Int) - left.length - right.length).toNat =
          8 - leftValues.length - rightValues.length := by
        omega
      refine ⟨left ++ List.replicate (8 - leftValues.length - rightValues.length) ['0'] ++ right,
        ?_, List.rel_append (List.rel_append leftGroups (zero_groups _)) rightGroups⟩
      have enough : ¬((2 = 1 ∧ (8 : Int) - left.length - right.length ≠ 0) ∨
          (8 : Int) - left.length - right.length < 0) := by
        omega
      have eight : ¬(left ++ List.replicate (8 - leftValues.length - rightValues.length) ['0'] ++
          right).length ≠ 8 := by
        simp only [List.length_append, List.length_replicate]
        omega
      simp only [allGroups, halves, List.headD_cons, List.getD_cons_succ, List.getD_cons_zero,
        List.length_cons, List.length_nil, groups_of_joined left_separable,
        groups_of_joined right_separable, if_true, zeros]
      rw [if_neg (by decide), if_neg enough, if_neg eight]

theorem dot_not_mem_joined {texts : List (List Char)} {values : List Nat}
    (groups : List.Forall₂ LowerGroup texts values) : '.' ∉ joined ':' texts := by
  have inside : ∀ text ∈ texts, '.' ∉ text := by
    intro text member
    obtain ⟨value, group⟩ := mem_lower_groups groups member
    exact group.not_mem (by decide)
  intro member
  rcases mem_joined member with colon | ⟨text, among, dot⟩
  · exact absurd colon (by decide)
  · exact inside text among dot

theorem without_quad_groups {address : List Char} (dotless : '.' ∉ address) :
    withoutQuad address = .ok address := by
  rw [withoutQuad, if_pos dotless]

theorem quad_char {quad : List Char} {value : Nat} (written : Quad quad value) {char : Char}
    (member : char ∈ quad) : char = '.' ∨ char.isDigit = true := by
  cases written
  refine (mem_joined member).imp_right ?_
  rintro ⟨octet, among, inside⟩
  simp only [List.mem_cons, List.not_mem_nil, or_false] at among
  rcases among with rfl | rfl | rfl | rfl <;> exact decimal_digit inside

theorem to_lower_digit {char : Char} (digit : char.isDigit = true) : char.toLower = char := by
  have not_upper : ¬(char.val ≥ 'A'.val ∧ char.val ≤ 'Z'.val) := by
    rintro ⟨upper, -⟩
    rw [Char.isDigit, Bool.and_eq_true, decide_eq_true_eq, decide_eq_true_eq] at digit
    have between : 'A'.val ≤ '9'.val := UInt32.le_trans upper digit.2
    exact absurd between (by decide)
  exact dif_neg not_upper

theorem quad_lower {quad : List Char} {value : Nat} (written : Quad quad value) :
    quad.map Char.toLower = quad := by
  refine (List.map_congr_left fun char member => ?_).trans quad.map_id
  rcases quad_char written member with rfl | digit
  · decide
  · exact to_lower_digit digit

theorem dot_mem_quad {quad : List Char} {value : Nat} (written : Quad quad value) :
    '.' ∈ quad := by
  cases written
  simp [joined_cons_cons]

theorem rdropWhile_after {p : Char → Bool} {stop : Char} {tail : List Char} (head : List Char)
    (stops : p stop = false) (passes : ∀ char ∈ tail, p char = true) :
    (head ++ stop :: tail).rdropWhile p = head ++ [stop] ∧
      (head ++ stop :: tail).rtakeWhile p = tail := by
  induction tail using List.reverseRecOn with
  | nil =>
      exact ⟨List.rdropWhile_concat_neg _ _ _ (by simp [stops]), by
        rw [List.rtakeWhile_concat_neg _ _ _ (by simp [stops])]⟩
  | append_singleton tail last ih =>
      have passed := passes last (by simp)
      obtain ⟨dropped, taken⟩ := ih fun char member => passes char (by simp [member])
      rw [← List.cons_append, ← List.append_assoc, List.rdropWhile_concat_pos _ _ _ passed,
        List.rtakeWhile_concat_pos _ _ _ passed, dropped, taken]
      exact ⟨rfl, rfl⟩

theorem without_quad_dotted {quad : List Char} {value : Nat} (written : Quad quad value)
    (head : List Char) :
    withoutQuad (head ++ ':' :: quad) =
      .ok (head ++
        ':' :: joined ':' [hexadecimal (value / 65536), hexadecimal (value % 65536)]) := by
  have small := written.value_lt
  have dot : ¬ '.' ∉ head ++ ':' :: quad := by simp [dot_mem_quad written]
  have colon : ¬ ':' ∉ head ++ ':' :: quad := by simp
  have passes : ∀ char ∈ quad, decide (char ≠ ':') = true := by
    intro char member
    rw [decide_eq_true_eq]
    rintro rfl
    rcases quad_char written member with same | digit
    · exact absurd same (by decide)
    · exact absurd digit (by decide)
  have stops : (fun char => decide (char ≠ ':')) ':' = false := rfl
  obtain ⟨dropped, taken⟩ := rdropWhile_after head stops passes
  have high : shiftRight value 16 = value / 65536 := shift_right_eq small (by decide)
  have low : Bitwise.and value 0xffff = (value % 65536 : Nat) := by
    have ones := and_ones small (by decide : 16 < 32)
    rwa [show ((2 ^ 16 - 1 : Nat) : Int) = 0xffff from rfl, show 2 ^ 16 = 65536 from rfl] at ones
  rw [withoutQuad, if_neg dot, if_neg colon, taken, dropped, ipv4_of_quad written]
  dsimp only [bind, Except.bind, pure, Except.pure]
  rw [high, low, joined_cons_cons, joined_singleton, List.append_assoc, List.append_assoc]
  rfl

theorem quad_groups {quad : List Char} {value : Nat} (written : Quad quad value) :
    List.Forall₂ LowerGroup [hexadecimal (value / 65536), hexadecimal (value % 65536)]
      [value / 65536, value % 65536] := by
  have small := written.value_lt
  exact .cons (lower_group_of_number (by omega))
    (.cons (lower_group_of_number (Nat.mod_lt value (by decide))) .nil)

theorem lower_joined (texts : List (List Char)) :
    (joined ':' texts).map Char.toLower = joined ':' (texts.map (List.map Char.toLower)) :=
  (map_joined Char.toLower ':' texts).trans rfl

theorem joined_after_colon (texts : List (List Char)) :
    ∃ head, ∀ last ≠ [], ':' :: joined ':' (texts ++ last) = head ++ ':' :: joined ':' last := by
  cases texts with
  | nil => exact ⟨[], fun last _ => rfl⟩
  | cons first rest =>
      refine ⟨':' :: joined ':' (first :: rest), fun last nonempty => ?_⟩
      rw [joined_append ':' (List.cons_ne_nil first rest) nonempty, List.cons_append]

theorem without_quad_words {text : List Char} {words : List Nat} (written : Words text words) :
    ∃ address, withoutQuad (text.map Char.toLower) = .ok address ∧ Grouped address words := by
  cases written with
  | full parts eight =>
      rw [lower_joined]
      cases parts with
      | groups groups =>
          have lower := groups_lower groups
          exact ⟨_, without_quad_groups (dot_not_mem_joined lower), .full lower eight⟩
      | @dotted texts _ quad _ groups written =>
          have lower := groups_lower groups
          obtain ⟨head, tail⟩ := joined_after_colon (texts.map (List.map Char.toLower))
          have nonempty : texts.map (List.map Char.toLower) ≠ [] := by
            rintro empty
            have few : 0 = _ := (congrArg List.length empty).symm.trans lower.length_eq
            rw [List.length_append, ← few] at eight
            cases eight
          rw [List.map_append, List.map_singleton, quad_lower written,
            joined_append ':' nonempty (List.cons_ne_nil _ _), joined_singleton]
          refine ⟨_, without_quad_dotted written _, ?_⟩
          rw [← joined_append ':' nonempty (List.cons_ne_nil _ _)]
          exact .full (List.rel_append lower (quad_groups written)) eight
  | @short left _ leftValues _ leftGroups parts few =>
      rw [List.map_append, List.map_cons, List.map_cons, lower_joined, lower_joined,
        show Char.toLower ':' = ':' from rfl]
      have left_lower := groups_lower leftGroups
      cases parts with
      | groups groups =>
          have lower := groups_lower groups
          refine ⟨_, without_quad_groups ?_, .short left_lower lower few⟩
          simp [dot_not_mem_joined left_lower, dot_not_mem_joined lower]
      | @dotted texts _ quad _ groups written =>
          have lower := groups_lower groups
          obtain ⟨head, tail⟩ := joined_after_colon (texts.map (List.map Char.toLower))
          rw [List.map_append, List.map_singleton, quad_lower written,
            tail _ (List.cons_ne_nil _ _), joined_singleton, ← List.cons_append,
            ← List.append_assoc]
          refine ⟨_, without_quad_dotted written _, ?_⟩
          rw [List.append_assoc, List.cons_append, ← tail _ (List.cons_ne_nil _ _)]
          exact .short left_lower (List.rel_append lower (quad_groups written)) few

theorem percent_not_mem_parts {texts : List (List Char)} {values : List Nat}
    (parts : Parts texts values) : ∀ text ∈ texts.map (List.map Char.toLower), '%' ∉ text := by
  have groups_free {texts : List (List Char)} {values : List Nat}
      (groups : List.Forall₂ LowerGroup texts values) : ∀ text ∈ texts, '%' ∉ text := by
    intro text member
    obtain ⟨value, group⟩ := mem_lower_groups groups member
    exact group.not_mem (by decide)
  cases parts with
  | groups groups => exact groups_free (groups_lower groups)
  | dotted groups written =>
      intro text member
      rw [List.map_append, List.map_singleton, quad_lower written] at member
      rcases List.mem_append.1 member with early | last
      · exact groups_free (groups_lower groups) text early
      · rw [List.mem_singleton.1 last]
        intro percent
        rcases quad_char written percent with same | digit
        · exact absurd same (by decide)
        · exact absurd digit (by decide)

theorem percent_not_mem_words {text : List Char} {words : List Nat} (written : Words text words) :
    '%' ∉ text.map Char.toLower := by
  have joined_free {texts : List (List Char)} {values : List Nat} (parts : Parts texts values) :
      '%' ∉ (joined ':' texts).map Char.toLower := by
    rw [lower_joined]
    intro member
    rcases mem_joined member with colon | ⟨text, among, percent⟩
    · exact absurd colon (by decide)
    · exact percent_not_mem_parts parts text among percent
  cases written with
  | full parts _ => exact joined_free parts
  | short left right _ =>
      rw [List.map_append, List.map_cons, List.map_cons, List.mem_append, List.mem_cons,
        List.mem_cons]
      rintro (inside | colon | colon | inside)
      · exact joined_free (.groups left) inside
      · exact absurd colon (by decide)
      · exact absurd colon (by decide)
      · exact joined_free right inside

theorem without_zone_words {text rest : List Char} {words : List Nat} (written : Words text words)
    (zone : rest.takeWhile (fun char => decide (char ≠ '%')) = []) :
    withoutZone (text.map Char.toLower ++ rest) = text.map Char.toLower := by
  have passes : ∀ char ∈ text.map Char.toLower, decide (char ≠ '%') = true := by
    intro char member
    rw [decide_eq_true_eq]
    rintro rfl
    exact percent_not_mem_words written member
  rw [withoutZone, List.takeWhile_append_of_pos passes, zone, List.append_nil]

/-- A textual IPv6 address is read as its number, in every form. -/
theorem ipv6_of_text {text : List Char} {value : Nat} (address : Ipv6 text value) :
    parseIpv6 text = .ok value := by
  have parsed {text rest : List Char} {words : List Nat} (written : Words text words)
      (zone : (rest.map Char.toLower).takeWhile (fun char => decide (char ≠ '%')) = []) :
      parseIpv6 (text ++ rest) = .ok (wordsValue words) := by
    obtain ⟨address, quadless, grouped⟩ := without_quad_words written
    obtain ⟨texts, groups, lower⟩ := all_groups grouped
    rw [parseIpv6, List.map_append, without_zone_words written zone, quadless]
    dsimp only [bind, Except.bind]
    rw [groups]
    exact add_groups lower 0
  cases address with
  | plain written =>
      have whole : parseIpv6 (text ++ []) = _ := parsed written rfl
      rwa [List.append_nil] at whole
  | zoned written _ _ => exact parsed written rfl

end LinkAlive.Monitoring
