import LinkAlive.Monitoring.AddressNumbers

/-!
# Which addresses are public

`isPublicAddress` in terms of numbers and of the blocks that the source lists. `isIP` accepts
the textual addresses.
-/

namespace LinkAlive.Monitoring

set_option autoImplicit false

open AddressText Bitwise

/-- The listed IPv6 blocks, as the first number and the length. -/
def reservedIpv6 : List (Nat × Nat) :=
  [(wordsValue [0x2001, 0, 0, 0, 0, 0, 0, 0], 23),
    (wordsValue [0x2001, 0xdb8, 0, 0, 0, 0, 0, 0], 32),
    (wordsValue [0x2002, 0, 0, 0, 0, 0, 0, 0], 16),
    (wordsValue [0x3fff, 0, 0, 0, 0, 0, 0, 0], 20)]

def globalUnicast : Nat := wordsValue [0x2000, 0, 0, 0, 0, 0, 0, 0]

theorem blocked_ipv6_cidrs_eq : blockedIpv6Cidrs = .ok reservedIpv6 := by decide +kernel

theorem global_unicast_eq : parseIpv6 "2000::".toList = .ok globalUnicast := by decide +kernel

theorem is_in_ipv6_cidr_iff {value base length : Nat} (small : value < 2 ^ 128)
    (base_small : base < 2 ^ 128) :
    isInIpv6Cidr value base length = true ↔ InBlock 128 base length value := by
  rw [← shift_eq_iff_in_block, isInIpv6Cidr]
  by_cases empty : length = 0
  · rw [if_pos empty, empty, Nat.shiftRight_eq_div_pow, Nat.shiftRight_eq_div_pow,
      Nat.div_eq_of_lt small, Nat.div_eq_of_lt base_small]
    exact ⟨fun _ => rfl, fun _ => rfl⟩
  · rw [if_neg empty, decide_eq_true_eq]

def mappedNumber (number : Nat) : Nat := 65535 * 4294967296 + number

theorem is_blocked_ipv6_mapped {text four : List Char} {number : Nat} (quad : Quad four number)
    (address : Ipv6 text (mappedNumber number)) : isBlockedIpv6 text = isBlockedIpv4 four := by
  obtain ⟨mapped, written, again⟩ := mapped_eq quad.value_lt rfl
  rw [isBlockedIpv6, blocked_ipv6_cidrs_eq, ipv6_of_text address]
  dsimp only [bind, Except.bind]
  rw [show mappedIpv4 (mappedNumber number) = some mapped from written]
  dsimp only
  rw [isBlockedIpv4, isBlockedIpv4, ipv4_of_quad again, ipv4_of_quad quad]

theorem is_blocked_ipv6_of_text {text : List Char} {value : Nat} (address : Ipv6 text value)
    (other : value / 4294967296 ≠ 65535) :
    ∃ blocked, isBlockedIpv6 text = .ok blocked ∧
      (blocked = true ↔
        ¬InBlock 128 globalUnicast 3 value ∨ InBlocks 128 reservedIpv6 value) := by
  have bases : ∀ block ∈ reservedIpv6, block.1 < 2 ^ 128 := by decide
  have unicast : isInIpv6Cidr value globalUnicast 3 = true ↔ InBlock 128 globalUnicast 3 value :=
    is_in_ipv6_cidr_iff address.value_lt (by decide)
  have listed : (reservedIpv6.any fun cidr => isInIpv6Cidr value cidr.1 cidr.2) = true ↔
      InBlocks 128 reservedIpv6 value := by
    rw [List.any_eq_true]
    exact exists_congr fun block => and_congr_right fun member =>
      is_in_ipv6_cidr_iff address.value_lt (bases block member)
  rw [isBlockedIpv6, blocked_ipv6_cidrs_eq, ipv6_of_text address, global_unicast_eq]
  dsimp only [bind, Except.bind]
  rw [mapped_none other]
  dsimp only [pure, Except.pure]
  cases inside : isInIpv6Cidr value globalUnicast 3 with
  | false =>
      have outside : ¬InBlock 128 globalUnicast 3 value := fun block =>
        Bool.false_ne_true (inside.symm.trans (unicast.2 block))
      exact ⟨true, rfl, fun _ => .inl outside, fun _ => rfl⟩
  | true =>
      refine ⟨_, rfl, listed.trans ⟨.inr, ?_⟩⟩
      rintro (outside | block)
      · exact absurd (unicast.1 inside) outside
      · exact block

/-- `isIP` accepts the textual addresses of both families and nothing else. -/
structure NetIsIP (isIP : String → Option AddressFamily) : Prop where
  ipv4 : ∀ text, isIP text = some .ipv4 ↔ ∃ value, Quad text.toList value
  ipv6 : ∀ text, isIP text = some .ipv6 ↔ ∃ value, Ipv6 text.toList value

variable {isIP : String → Option AddressFamily}

theorem is_public_address_ipv4 {text : String} (family : isIP text = some .ipv4) {blocked : Bool}
    (verdict : isBlockedIpv4 text.toList = .ok blocked) :
    isPublicAddress isIP text = !blocked := by
  rw [isPublicAddress, family]
  dsimp only
  rw [verdict]

theorem is_public_address_ipv6 {text : String} (family : isIP text = some .ipv6) {blocked : Bool}
    (verdict : isBlockedIpv6 text.toList = .ok blocked) :
    isPublicAddress isIP text = !blocked := by
  rw [isPublicAddress, family]
  dsimp only
  rw [verdict]

theorem public_ipv4_iff (net : NetIsIP isIP) {text : String} {value : Nat}
    (quad : Quad text.toList value) :
    isPublicAddress isIP text = true ↔ ¬InBlocks 32 reservedIpv4 value := by
  obtain ⟨blocked, verdict, inside⟩ := is_blocked_ipv4_of_quad quad
  rw [is_public_address_ipv4 ((net.ipv4 text).2 ⟨value, quad⟩) verdict, ← inside]
  cases blocked <;> decide

theorem public_ipv6_iff (net : NetIsIP isIP) {text : String} {value : Nat}
    (address : Ipv6 text.toList value) (other : value / 4294967296 ≠ 65535) :
    isPublicAddress isIP text = true ↔
      InBlock 128 globalUnicast 3 value ∧ ¬InBlocks 128 reservedIpv6 value := by
  obtain ⟨blocked, verdict, inside⟩ := is_blocked_ipv6_of_text address other
  have negated : ¬(blocked = true) ↔
      InBlock 128 globalUnicast 3 value ∧ ¬InBlocks 128 reservedIpv6 value := by
    rw [inside, not_or, not_not]
  rw [is_public_address_ipv6 ((net.ipv6 text).2 ⟨value, address⟩) verdict, ← negated]
  cases blocked <;> decide

theorem public_mapped (net : NetIsIP isIP) {four six : String} {number : Nat}
    (quad : Quad four.toList number) (address : Ipv6 six.toList (mappedNumber number)) :
    isPublicAddress isIP six = isPublicAddress isIP four := by
  obtain ⟨blocked, verdict, -⟩ := is_blocked_ipv4_of_quad quad
  have mapped := (is_blocked_ipv6_mapped quad address).trans verdict
  rw [is_public_address_ipv4 ((net.ipv4 four).2 ⟨number, quad⟩) verdict,
    is_public_address_ipv6 ((net.ipv6 six).2 ⟨_, address⟩) mapped]

theorem public_same_ipv6 (net : NetIsIP isIP) {text again : String} {value : Nat}
    (first : Ipv6 text.toList value) (second : Ipv6 again.toList value) :
    isPublicAddress isIP text = isPublicAddress isIP again := by
  have blocked : isBlockedIpv6 text.toList = isBlockedIpv6 again.toList := by
    rw [isBlockedIpv6, isBlockedIpv6, ipv6_of_text first, ipv6_of_text second]
  rw [isPublicAddress, isPublicAddress, (net.ipv6 text).2 ⟨value, first⟩,
    (net.ipv6 again).2 ⟨value, second⟩]
  dsimp only
  rw [blocked]

theorem public_same_ipv4 (net : NetIsIP isIP) {text again : String} {value : Nat}
    (first : Quad text.toList value) (second : Quad again.toList value) :
    isPublicAddress isIP text = isPublicAddress isIP again := by
  have blocked : isBlockedIpv4 text.toList = isBlockedIpv4 again.toList := by
    rw [isBlockedIpv4, isBlockedIpv4, ipv4_of_quad first, ipv4_of_quad second]
  rw [isPublicAddress, isPublicAddress, (net.ipv4 text).2 ⟨value, first⟩,
    (net.ipv4 again).2 ⟨value, second⟩]
  dsimp only
  rw [blocked]

/-- The verdict follows from the number that an accepted text denotes. -/
structure DecidesByNumber (isIP : String → Option AddressFamily) : Prop where
  ipv4_number : ∀ text, isIP text = some .ipv4 →
    ∃ value, Quad text.toList value ∧ ipv4ToNumber text.toList = .ok value
  ipv6_number : ∀ text, isIP text = some .ipv6 →
    ∃ value, Ipv6 text.toList value ∧ parseIpv6 text.toList = .ok value
  ipv4_denoted : ∀ text value, Quad text value → ipv4ToNumber text = .ok value
  ipv6_denoted : ∀ text value, Ipv6 text value → parseIpv6 text = .ok value
  same_ipv4 : ∀ text again value, Quad text.toList value → Quad again.toList value →
    isPublicAddress isIP text = isPublicAddress isIP again
  same_ipv6 : ∀ text again value, Ipv6 text.toList value → Ipv6 again.toList value →
    isPublicAddress isIP text = isPublicAddress isIP again
  mapped : ∀ four six number, Quad four.toList number → Ipv6 six.toList (mappedNumber number) →
    isPublicAddress isIP six = isPublicAddress isIP four
  public_ipv4 : ∀ text value, Quad text.toList value →
    (isPublicAddress isIP text = true ↔ ¬InBlocks 32 reservedIpv4 value)
  public_ipv6 : ∀ text value, Ipv6 text.toList value →
    (∀ number < 4294967296, value ≠ mappedNumber number) →
      (isPublicAddress isIP text = true ↔
        InBlock 128 globalUnicast 3 value ∧ ¬InBlocks 128 reservedIpv6 value)
  neither : ∀ text, isIP text = none → isPublicAddress isIP text = false
  masks : ∀ address base length, Quad address base → length ≤ 32 →
    ∃ cidr, parseCidr4 (address ++ '/' :: decimal length) = .ok cidr ∧
      ∀ value < 4294967296, cidr.covers value = true ↔ InBlock 32 base length value
  shifts : ∀ value base length, value < 2 ^ 128 → base < 2 ^ 128 → length ≤ 128 →
    (isInIpv6Cidr value base length = true ↔ InBlock 128 base length value)

theorem public_address_decides_by_number (net : NetIsIP isIP) : DecidesByNumber isIP where
  ipv4_number text family := by
    obtain ⟨value, quad⟩ := (net.ipv4 text).1 family
    exact ⟨value, quad, ipv4_of_quad quad⟩
  ipv6_number text family := by
    obtain ⟨value, address⟩ := (net.ipv6 text).1 family
    exact ⟨value, address, ipv6_of_text address⟩
  ipv4_denoted _ _ quad := ipv4_of_quad quad
  ipv6_denoted _ _ address := ipv6_of_text address
  same_ipv4 _ _ _ first second := public_same_ipv4 net first second
  same_ipv6 _ _ _ first second := public_same_ipv6 net first second
  mapped _ _ _ quad address := public_mapped net quad address
  public_ipv4 _ _ quad := public_ipv4_iff net quad
  public_ipv6 text value address other := by
    refine public_ipv6_iff net address fun high => ?_
    refine other (value % 4294967296) (Nat.mod_lt value (by decide)) ?_
    unfold mappedNumber
    omega
  neither text unknown := by
    rw [isPublicAddress, unknown]
    rfl
  masks _ base length quad within :=
    ⟨cidr4 base length, parse_cidr4_of_quad quad length, fun _ small =>
      cidr4_covers_iff small quad.value_lt within⟩
  shifts _ _ _ small base_small _ := is_in_ipv6_cidr_iff small base_small

theorem colon_mem_ipv6 {text : List Char} {value : Nat} (address : Ipv6 text value) :
    ':' ∈ text := by
  have inside {text : List Char} {words : List Nat} (written : Words text words) :
      ':' ∈ text := by
    cases written with
    | @full texts words parts eight =>
        have several : 2 ≤ texts.length := by
          cases parts with
          | groups groups =>
              have same := groups.length_eq
              omega
          | dotted groups _ =>
              have same := groups.length_eq
              simp only [List.length_append, List.length_cons, List.length_nil] at eight ⊢
              omega
        match texts, several with
        | first :: second :: rest, _ =>
            rw [joined_cons_cons]
            simp
    | short _ _ _ => simp
  cases address with
  | plain written => exact inside written
  | zoned written _ _ => exact List.mem_append_left _ (inside written)

theorem quad_not_ipv6 {text : List Char} {number value : Nat} (quad : Quad text number) :
    ¬Ipv6 text value := by
  intro address
  rcases quad_char quad (colon_mem_ipv6 address) with same | digit
  · exact absurd same (by decide)
  · exact absurd digit (by decide)

open Classical in
/-- The `isIP` that accepts the textual addresses. -/
noncomputable def textualIsIP (text : String) : Option AddressFamily :=
  if ∃ value, Quad text.toList value then some .ipv4
  else if ∃ value, Ipv6 text.toList value then some .ipv6
  else none

theorem textual_is_ip : NetIsIP textualIsIP where
  ipv4 text := by
    unfold textualIsIP
    split
    · rename_i quad
      exact ⟨fun _ => quad, fun _ => rfl⟩
    · rename_i none_four
      refine ⟨fun family => ?_, fun quad => absurd quad none_four⟩
      split at family <;> cases family
  ipv6 text := by
    unfold textualIsIP
    split
    · rename_i quad
      obtain ⟨number, quad⟩ := quad
      refine ⟨fun family => (by cases family), ?_⟩
      rintro ⟨_, address⟩
      exact absurd address (quad_not_ipv6 quad)
    · split
      · rename_i address
        exact ⟨fun _ => address, fun _ => rfl⟩
      · rename_i none_six
        exact ⟨fun family => (by cases family), fun address => absurd address none_six⟩

/-- A text with another character and without a colon is no address. -/
theorem textual_is_ip_name {text : String} (other : Char) (member : other ∈ text.toList)
    (letter : other ≠ '.' ∧ other.isDigit = false) (colonless : ':' ∉ text.toList) :
    textualIsIP text = none := by
  cases family : textualIsIP text with
  | none => rfl
  | some found =>
      cases found with
      | ipv4 =>
          obtain ⟨value, quad⟩ := (textual_is_ip.ipv4 text).1 family
          rcases quad_char quad member with same | digit
          · exact absurd same letter.1
          · exact absurd (letter.2.symm.trans digit) Bool.false_ne_true
      | ipv6 =>
          obtain ⟨value, address⟩ := (textual_is_ip.ipv6 text).1 family
          exact absurd (colon_mem_ipv6 address) colonless

theorem public_address_decides_by_number_textual :
    DecidesByNumber textualIsIP ∧ isPublicAddress textualIsIP "8.8.8.8" = true := by
  have decides := public_address_decides_by_number textual_is_ip
  have quad : Quad "8.8.8.8".toList (quadValue 8 8 8 8) :=
    Quad.dotted 8 8 8 8 (by decide) (by decide) (by decide) (by decide)
  refine ⟨decides, (decides.public_ipv4 _ _ quad).2 ?_⟩
  have outside : ∀ block ∈ reservedIpv4, ¬InBlock 32 block.1 block.2 (quadValue 8 8 8 8) := by
    decide
  exact fun ⟨block, listed, inside⟩ => outside block listed inside

end LinkAlive.Monitoring
