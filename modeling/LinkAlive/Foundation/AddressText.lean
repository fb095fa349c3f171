import Mathlib.Algebra.GroupWithZero.Nat
import Mathlib.Data.List.Forall2
import Mathlib.Data.List.Induction

/-!
# Textual IP addresses

Which texts denote an IPv4 or an IPv6 address, and which: dotted quads of decimal octets
without leading zeros; up to eight groups of hexadecimal digits in either case, with at most
one `::` in place of one or more zero groups, with the last two groups as a dotted quad where
it is so written, and with a zone where there is one.
-/

namespace AddressText

set_option autoImplicit false

def joined (separator : Char) (texts : List (List Char)) : List Char :=
  [separator].intercalate texts

@[simp] theorem joined_nil (separator : Char) : joined separator [] = [] := rfl

@[simp] theorem joined_singleton (separator : Char) (text : List Char) :
    joined separator [text] = text :=
  List.intercalate_singleton

theorem joined_cons_cons (separator : Char) (first second : List Char) (rest : List (List Char)) :
    joined separator (first :: second :: rest) =
      first ++ separator :: joined separator (second :: rest) := by
  rw [joined, joined, List.intercalate_cons_cons, List.append_assoc, List.singleton_append]

theorem joined_cons (separator : Char) (first : List Char) {rest : List (List Char)}
    (nonempty : rest ≠ []) :
    joined separator (first :: rest) = first ++ separator :: joined separator rest := by
  cases rest with
  | nil => exact absurd rfl nonempty
  | cons second rest => exact joined_cons_cons separator first second rest

theorem joined_append (separator : Char) {texts more : List (List Char)} (nonempty : texts ≠ [])
    (others : more ≠ []) :
    joined separator (texts ++ more) =
      joined separator texts ++ separator :: joined separator more := by
  induction texts with
  | nil => exact absurd rfl nonempty
  | cons first rest ih =>
      cases rest with
      | nil => rw [List.singleton_append, joined_cons separator first others, joined_singleton]
      | cons second rest =>
          have tail := List.append_ne_nil_of_left_ne_nil (List.cons_ne_nil second rest) more
          rw [List.cons_append, joined_cons separator first tail, ih (List.cons_ne_nil _ _),
            joined_cons_cons, List.append_assoc, List.cons_append]

theorem map_joined (change : Char → Char) (separator : Char) (texts : List (List Char)) :
    (joined separator texts).map change =
      joined (change separator) (texts.map (List.map change)) := by
  induction texts with
  | nil => rfl
  | cons first rest ih =>
      cases rest with
      | nil => rw [joined_singleton, List.map_cons, List.map_nil, joined_singleton]
      | cons second rest =>
          rw [joined_cons_cons, List.map_append, List.map_cons, ih]
          simp only [List.map_cons, joined_cons_cons]

theorem mem_joined {separator char : Char} {texts : List (List Char)}
    (member : char ∈ joined separator texts) :
    char = separator ∨ ∃ text ∈ texts, char ∈ text := by
  induction texts with
  | nil => cases member
  | cons first rest ih =>
      cases rest with
      | nil =>
          rw [joined_singleton] at member
          exact .inr ⟨first, List.mem_cons_self, member⟩
      | cons second rest =>
          rw [joined_cons_cons, List.mem_append, List.mem_cons] at member
          rcases member with inside | rfl | later
          · exact .inr ⟨first, List.mem_cons_self, inside⟩
          · exact .inl rfl
          · refine (ih later).imp_right ?_
            rintro ⟨text, among, inside⟩
            exact ⟨text, List.mem_cons_of_mem _ among, inside⟩

theorem joined_injective {separator : Char} {first second : List (List Char)}
    (nonempty : first ≠ []) (others : second ≠ [])
    (free : ∀ text ∈ first, separator ∉ text) (clear : ∀ text ∈ second, separator ∉ text)
    (same : joined separator first = joined separator second) : first = second := by
  rw [← List.splitOn_intercalate separator free nonempty,
    ← List.splitOn_intercalate separator clear others]
  exact congrArg (List.splitOn separator) same

def decimal (number : Nat) : List Char := Nat.toDigits 10 number

def quadValue (first second third fourth : Nat) : Nat :=
  256 * (256 * (256 * first + second) + third) + fourth

inductive Quad : List Char → Nat → Prop
  | dotted (first second third fourth : Nat) : first < 256 → second < 256 → third < 256 →
      fourth < 256 →
        Quad (joined '.' [decimal first, decimal second, decimal third, decimal fourth])
          (quadValue first second third fourth)

theorem Quad.value_lt {text : List Char} {value : Nat} (quad : Quad text value) :
    value < 4294967296 := by
  cases quad
  unfold quadValue
  omega

theorem quad_of_bytes {value : Nat} (small : value < 4294967296) :
    Quad (joined '.' [decimal (value / 16777216), decimal (value / 65536 % 256),
      decimal (value / 256 % 256), decimal (value % 256)]) value := by
  have same : quadValue (value / 16777216) (value / 65536 % 256) (value / 256 % 256)
      (value % 256) = value := by
    unfold quadValue
    omega
  have quad := Quad.dotted (value / 16777216) (value / 65536 % 256) (value / 256 % 256)
    (value % 256) (by omega) (Nat.mod_lt _ (by decide)) (Nat.mod_lt _ (by decide))
    (Nat.mod_lt _ (by decide))
  rwa [same] at quad

inductive HexDigit : Char → Nat → Prop
  | digit (value : Nat) : value < 10 → HexDigit (Char.ofNat ('0'.toNat + value)) value
  | lower (value : Nat) : value < 6 → HexDigit (Char.ofNat ('a'.toNat + value)) (10 + value)
  | upper (value : Nat) : value < 6 → HexDigit (Char.ofNat ('A'.toNat + value)) (10 + value)

theorem HexDigit.value_lt {char : Char} {value : Nat} (digit : HexDigit char value) :
    value < 16 := by
  cases digit <;> omega

inductive HexDigits : List Char → Nat → Prop
  | nil : HexDigits [] 0
  | snoc {text : List Char} {char : Char} {value last : Nat} : HexDigits text value →
      HexDigit char last → HexDigits (text ++ [char]) (16 * value + last)

structure Group (text : List Char) (value : Nat) : Prop where
  digits : HexDigits text value
  nonempty : text ≠ []
  short : text.length ≤ 4

theorem HexDigits.value_lt {text : List Char} {value : Nat} (digits : HexDigits text value) :
    value < 16 ^ text.length := by
  induction digits with
  | nil => decide
  | snoc digits digit ih =>
      have last := digit.value_lt
      rw [List.length_append, List.length_singleton, Nat.pow_succ]
      omega

theorem Group.value_lt {text : List Char} {value : Nat} (group : Group text value) :
    value < 65536 :=
  Nat.lt_of_lt_of_le group.digits.value_lt
    (Nat.pow_le_pow_right (by decide) group.short : 16 ^ text.length ≤ 16 ^ 4)

def hexadecimal (number : Nat) : List Char := Nat.toDigits 16 number

theorem hex_digit_of_lt {value : Nat} (small : value < 16) : HexDigit value.digitChar value := by
  have low : ∀ value < 10, Nat.digitChar value = Char.ofNat ('0'.toNat + value) := by decide
  have high : ∀ value < 6, Nat.digitChar (10 + value) = Char.ofNat ('a'.toNat + value) := by
    decide
  by_cases decimal : value < 10
  · rw [low value decimal]
    exact .digit value decimal
  · obtain ⟨rest, rfl⟩ := Nat.exists_eq_add_of_le (Nat.le_of_not_lt decimal)
    rw [high rest (by omega)]
    exact .lower rest (by omega)

theorem hexadecimal_digits (number : Nat) : HexDigits (hexadecimal number) number := by
  induction number using Nat.strongRecOn with
  | ind number ih =>
      by_cases single : number < 16
      · rw [hexadecimal, Nat.toDigits_of_lt_base single]
        have one := HexDigits.nil.snoc (hex_digit_of_lt single)
        rwa [Nat.mul_zero, Nat.zero_add] at one
      · have base : 16 ≤ number := Nat.le_of_not_lt single
        rw [hexadecimal, Nat.toDigits_of_base_le (by decide) base]
        have more := (ih (number / 16) (by omega)).snoc
          (hex_digit_of_lt (Nat.mod_lt number (by decide : 0 < 16)))
        rwa [Nat.div_add_mod] at more

theorem group_of_number {number : Nat} (small : number < 65536) :
    Group (hexadecimal number) number where
  digits := hexadecimal_digits number
  nonempty := Nat.toDigits_ne_nil
  short := (Nat.length_toDigits_le_iff (by decide) (by decide)).2 small

theorem hexadecimal_lower (number : Nat) :
    (hexadecimal number).map Char.toLower = hexadecimal number := by
  have digits : ∀ digit < 16, (Nat.digitChar digit).toLower = Nat.digitChar digit := by decide
  induction number using Nat.strongRecOn with
  | ind number ih =>
      by_cases single : number < 16
      · rw [hexadecimal, Nat.toDigits_of_lt_base single, List.map_singleton, digits number single]
      · have base : 16 ≤ number := Nat.le_of_not_lt single
        have last := digits (number % 16) (Nat.mod_lt number (by decide))
        have early := ih (number / 16) (by omega)
        rw [hexadecimal] at early
        rw [hexadecimal, Nat.toDigits_of_base_le (by decide) base, List.map_append,
          List.map_singleton, last, early]

inductive Parts : List (List Char) → List Nat → Prop
  | groups {texts : List (List Char)} {values : List Nat} : List.Forall₂ Group texts values →
      Parts texts values
  | dotted {texts : List (List Char)} {values : List Nat} {quad : List Char} {value : Nat} :
      List.Forall₂ Group texts values → Quad quad value →
        Parts (texts ++ [quad]) (values ++ [value / 65536, value % 65536])

/-- The text of an IPv6 address without a zone, and its eight groups. -/
inductive Words : List Char → List Nat → Prop
  | full {texts : List (List Char)} {values : List Nat} : Parts texts values →
      values.length = 8 → Words (joined ':' texts) values
  | short {left right : List (List Char)} {leftValues rightValues : List Nat} :
      List.Forall₂ Group left leftValues → Parts right rightValues →
        leftValues.length + rightValues.length ≤ 7 →
          Words (joined ':' left ++ ':' :: ':' :: joined ':' right)
            (leftValues ++
              List.replicate (8 - leftValues.length - rightValues.length) 0 ++ rightValues)

def wordsValue (words : List Nat) : Nat := words.foldl (fun value word => 65536 * value + word) 0

def isZoneChar (char : Char) : Bool := char.isAlphanum || char ∈ ['-', '.', ':']

inductive Ipv6 : List Char → Nat → Prop
  | plain {text : List Char} {words : List Nat} : Words text words → Ipv6 text (wordsValue words)
  | zoned {text zone : List Char} {words : List Nat} : Words text words → zone ≠ [] →
      (∀ char ∈ zone, isZoneChar char = true) → Ipv6 (text ++ '%' :: zone) (wordsValue words)

theorem Parts.small {texts : List (List Char)} {values : List Nat} (parts : Parts texts values) :
    ∀ value ∈ values, value < 65536 := by
  have groups_small {texts : List (List Char)} {values : List Nat}
      (groups : List.Forall₂ Group texts values) : ∀ value ∈ values, value < 65536 := by
    induction groups with
    | nil => simp
    | cons group _ ih =>
        intro value member
        rcases List.mem_cons.1 member with rfl | later
        · exact group.value_lt
        · exact ih value later
  cases parts with
  | groups groups => exact groups_small groups
  | dotted groups quad =>
      intro value member
      have bound := quad.value_lt
      rcases List.mem_append.1 member with early | late
      · exact groups_small groups value early
      · rcases List.mem_pair.1 late with rfl | rfl <;> omega

theorem Words.length {text : List Char} {words : List Nat} (written : Words text words) :
    words.length = 8 := by
  cases written with
  | full _ length => exact length
  | short _ _ few =>
      simp only [List.length_append, List.length_replicate]
      omega

theorem Words.small {text : List Char} {words : List Nat} (written : Words text words) :
    ∀ word ∈ words, word < 65536 := by
  cases written with
  | full parts _ => exact parts.small
  | short left right _ =>
      intro word member
      rcases List.mem_append.1 member with early | late
      · rcases List.mem_append.1 early with first | zero
        · exact (Parts.groups left).small word first
        · rw [List.eq_of_mem_replicate zero]
          decide
      · exact right.small word late

theorem words_value_lt {words : List Nat} (small : ∀ word ∈ words, word < 65536) :
    wordsValue words < 65536 ^ words.length := by
  induction words using List.reverseRecOn with
  | nil => decide
  | append_singleton words word ih =>
      have bound := ih fun other member => small other (List.mem_append_left _ member)
      have last := small word (by simp)
      simp only [wordsValue, List.foldl_append, List.foldl_cons, List.foldl_nil,
        List.length_append, List.length_singleton, Nat.pow_succ] at bound ⊢
      omega

theorem Ipv6.value_lt {text : List Char} {value : Nat} (address : Ipv6 text value) :
    value < 2 ^ 128 := by
  have bound {text : List Char} {words : List Nat} (written : Words text words) :
      wordsValue words < 2 ^ 128 := by
    have below := words_value_lt written.small
    rw [written.length] at below
    exact below
  cases address with
  | plain written => exact bound written
  | zoned written _ _ => exact bound written

def wordsOf : Nat → Nat → List Nat
  | 0, _ => []
  | count + 1, value => wordsOf count (value / 65536) ++ [value % 65536]

@[simp] theorem words_of_length (count value : Nat) : (wordsOf count value).length = count := by
  induction count generalizing value with
  | zero => rfl
  | succ count ih => rw [wordsOf, List.length_append, ih, List.length_singleton]

theorem words_of_small (count value : Nat) : ∀ word ∈ wordsOf count value, word < 65536 := by
  induction count generalizing value with
  | zero => exact fun _ member => absurd member List.not_mem_nil
  | succ count ih =>
      intro word member
      rcases List.mem_append.1 member with early | last
      · exact ih (value / 65536) word early
      · rw [List.mem_singleton.1 last]
        exact Nat.mod_lt value (by decide)

theorem words_value_words_of {count value : Nat} (small : value < 65536 ^ count) :
    wordsValue (wordsOf count value) = value := by
  induction count generalizing value with
  | zero =>
      rw [Nat.pow_zero] at small
      rw [Nat.lt_one_iff.1 small]
      rfl
  | succ count ih =>
      have high : value / 65536 < 65536 ^ count := by
        rw [Nat.div_lt_iff_lt_mul (by decide)]
        exact small
      have early := ih high
      rw [wordsValue] at early
      rw [wordsValue, wordsOf, List.foldl_append, early, List.foldl_cons, List.foldl_nil]
      exact Nat.div_add_mod value 65536

/-- The lengths and starts of a run among eight words, the longest and then the first first. -/
def runs : List (Nat × Nat) :=
  [8, 7, 6, 5, 4, 3, 2].flatMap fun length =>
    (List.range (9 - length)).map fun start => (length, start)

def isZeroRun (words : List Nat) (run : Nat × Nat) : Bool :=
  (words.drop run.2).take run.1 = List.replicate run.1 0

def hexGroups (words : List Nat) : List Char := joined ':' (words.map hexadecimal)

/-- The text of the URL standard: the first of the longest runs of two or more zeros is left
out, and nothing is dotted. -/
def serialized (value : Nat) : List Char :=
  let words := wordsOf 8 value
  match runs.find? (isZeroRun words) with
  | none => hexGroups words
  | some (length, start) =>
      hexGroups (words.take start) ++ ':' :: ':' :: hexGroups (words.drop (start + length))

theorem groups_of_words {words : List Nat} (small : ∀ word ∈ words, word < 65536) :
    List.Forall₂ Group (words.map hexadecimal) words := by
  induction words with
  | nil => exact .nil
  | cons word words ih =>
      exact .cons (group_of_number (small word List.mem_cons_self))
        (ih fun other member => small other (List.mem_cons_of_mem _ member))

theorem serialized_words (value : Nat) : Words (serialized value) (wordsOf 8 value) := by
  have small := words_of_small 8 value
  have length := words_of_length 8 value
  unfold serialized
  dsimp only
  split
  · exact .full (.groups (groups_of_words small)) length
  · rename_i count start found
    have zeros := List.find?_some found
    have bounds : ∀ run ∈ runs, 2 ≤ run.1 ∧ run.1 + run.2 ≤ 8 := by decide
    obtain ⟨several, within⟩ := bounds _ (List.mem_of_find?_eq_some found)
    rw [isZeroRun, decide_eq_true_eq] at zeros
    have early : List.Forall₂ Group (((wordsOf 8 value).take start).map hexadecimal)
        ((wordsOf 8 value).take start) :=
      groups_of_words fun word member => small word (List.mem_of_mem_take member)
    have late : Parts (((wordsOf 8 value).drop (start + count)).map hexadecimal)
        ((wordsOf 8 value).drop (start + count)) :=
      .groups (groups_of_words fun word member => small word (List.mem_of_mem_drop member))
    have left_length : ((wordsOf 8 value).take start).length = start := by
      rw [List.length_take, length]
      omega
    have right_length : ((wordsOf 8 value).drop (start + count)).length = 8 - (start + count) := by
      rw [List.length_drop, length]
    have short := Words.short early late (by omega)
    have missing : 8 - start - (8 - (start + count)) = count := by omega
    rw [left_length, right_length, missing, ← zeros, List.append_assoc, ← List.drop_drop,
      List.take_append_drop, List.take_append_drop] at short
    rw [← List.drop_drop]
    exact short

/-- The canonical text denotes the number. -/
theorem serialized_ipv6 {value : Nat} (small : value < 2 ^ 128) :
    Ipv6 (serialized value) value := by
  have plain := Ipv6.plain (serialized_words value)
  rwa [words_value_words_of small] at plain

theorem hex_groups_lower (words : List Nat) :
    (hexGroups words).map Char.toLower = hexGroups words := by
  have each : (words.map hexadecimal).map (List.map Char.toLower) = words.map hexadecimal := by
    rw [List.map_map]
    exact List.map_congr_left fun word _ => hexadecimal_lower word
  rw [hexGroups, map_joined, each]
  rfl

theorem serialized_lower (value : Nat) :
    (serialized value).map Char.toLower = serialized value := by
  unfold serialized
  dsimp only
  split
  · exact hex_groups_lower _
  · rw [List.map_append, List.map_cons, List.map_cons, hex_groups_lower, hex_groups_lower]
    rfl

example : String.ofList (serialized (65535 * 4294967296 + 16909060)) = "::ffff:102:304" := by
  decide +kernel

end AddressText
