import LinkAlive.Monitoring.AddressUrls

/-!
# The keys of a destination

`canonicalAddress`, `destinationSubjects` and `destinationKeys` of
`packages/monitoring/src/destination-limiter.ts`. `isIP`, the `URL` class and the hash are
parameters.
-/

namespace LinkAlive.Monitoring

set_option autoImplicit false

open AddressText

def maxDestinationAddresses : Nat := 64

def familyDigit : AddressFamily → String
  | .ipv4 => "4"
  | .ipv6 => "6"

section Model

variable (isIP : String → Option AddressFamily) (library : UrlLibrary) (digest : String → String)

def canonicalAddress (address : ResolvedAddress) : Except String String :=
  if isIP address.address ≠ some address.family then .error "invalid destination address"
  else
    match address.family with
    | .ipv4 =>
        .ok (String.ofList (joined '.'
          ((address.address.toList.splitOn '.').map fun octet => decimal (decimalValue octet))))
    | .ipv6 =>
        match library.parse ("http://[" ++ address.address ++ "]/") with
        | some url => .ok (lowerText (bareHostname (library.hostname url)))
        | none => .error "Invalid URL"

def hostSubject (destination : SafeDestination library) : String :=
  "host:" ++ normalizedHostname (library.hostname destination.url)

def addressSubject (address : ResolvedAddress) : Except CheckFailure String :=
  match canonicalAddress isIP library address with
  | .ok canonical => .ok ("ip" ++ familyDigit address.family ++ ":" ++ canonical)
  | .error _ =>
      .error (.destinationLimiterError
        "검증된 목적지 주소에 보호 제한을 안전하게 적용할 수 없습니다.")

def destinationSubjects (destination : SafeDestination library) :
    Except CheckFailure (List String) :=
  if maxDestinationAddresses < destination.addresses.length then
    .error (.destinationLimiterError
      "대상의 주소가 너무 많아 보호 제한을 안전하게 적용할 수 없습니다.")
  else do
    let addresses ← destination.addresses.mapM (addressSubject isIP library)
    return (hostSubject library destination :: addresses).eraseDups

structure DestinationKeys where
  acquireKeys : List String
  activeKeys : List String

def destinationKeys (destination : SafeDestination library) : Except CheckFailure DestinationKeys :=
  do
    let subjects ← destinationSubjects isIP library destination
    let bases := subjects.map fun subject =>
      "linkalive:destination-limit:{global}:" ++ digest subject
    return ⟨bases.flatMap fun base => [base ++ ":active", base ++ ":rate"],
      bases.map fun base => base ++ ":active"⟩

end Model

/-- The number of 128 bits that an address stands for; an IPv4 address stands for the one
that is mapped from it. -/
inductive Endpoint : ResolvedAddress → Nat → Prop
  | ipv4 {text : String} {number : Nat} : Quad text.toList number →
      Endpoint ⟨text, .ipv4⟩ (mappedNumber number)
  | ipv6 {text : String} {value : Nat} : Ipv6 text.toList value → Endpoint ⟨text, .ipv6⟩ value

def SameEndpoint (address other : ResolvedAddress) : Prop :=
  ∃ endpoint, Endpoint address endpoint ∧ Endpoint other endpoint

variable {isIP : String → Option AddressFamily} {library : UrlLibrary} {digest : String → String}

/-- One host name up to case, brackets and one trailing dot. -/
def SameHost (first second : SafeDestination library) : Prop :=
  normalizedHostname (library.hostname first.url) =
    normalizedHostname (library.hostname second.url)

def SharesEndpoint (first second : SafeDestination library) : Prop :=
  ∃ address ∈ first.addresses, ∃ other ∈ second.addresses, SameEndpoint address other

def SharesInFamily (first second : SafeDestination library) : Prop :=
  ∃ address ∈ first.addresses, ∃ other ∈ second.addresses,
    address.family = other.family ∧ SameEndpoint address other

structure Limitable (isIP : String → Option AddressFamily)
    (destination : SafeDestination library) : Prop where
  few : destination.addresses.length ≤ 64
  valid : ∀ address ∈ destination.addresses, isIP address.address = some address.family
  zoneless : ∀ address ∈ destination.addresses, '%' ∉ address.address.toList

theorem quad_unique {text other : List Char} {number again : Nat} (first : Quad text number)
    (second : Quad other again) (same : number = again) : text = other := by
  cases first with
  | dotted a b c d small_a small_b small_c small_d =>
      cases second with
      | dotted a' b' c' d' small_a' small_b' small_c' small_d' =>
          unfold quadValue at same
          obtain rfl : a = a' := by omega
          obtain rfl : b = b' := by omega
          obtain rfl : c = c' := by omega
          obtain rfl : d = d' := by omega
          rfl

/-- The canonical text tells numbers apart. -/
theorem serialized_injective {value other : Nat} (small : value < 2 ^ 128)
    (other_small : other < 2 ^ 128) (same : serialized value = serialized other) :
    value = other := by
  have first := ipv6_of_text (serialized_ipv6 small)
  have second := ipv6_of_text (serialized_ipv6 other_small)
  rw [same, second] at first
  exact (Except.ok.inj first).symm

theorem canonical_ipv4 (net : NetIsIP isIP) {text : String} {number : Nat}
    (quad : Quad text.toList number) :
    canonicalAddress isIP library ⟨text, .ipv4⟩ = .ok text := by
  have family := (net.ipv4 text).2 ⟨number, quad⟩
  have octets : (text.toList.splitOn '.').map (fun octet => decimal (decimalValue octet)) =
      text.toList.splitOn '.' ∧ joined '.' (text.toList.splitOn '.') = text.toList := by
    generalize text.toList = chars at quad
    cases quad with
    | dotted first second third fourth =>
        have parts : (joined '.' [decimal first, decimal second, decimal third,
            decimal fourth]).splitOn '.' =
              [decimal first, decimal second, decimal third, decimal fourth] :=
          List.splitOn_intercalate '.' (by simp [dot_not_mem_decimal]) (List.cons_ne_nil _ _)
        rw [parts]
        simp only [List.map_cons, List.map_nil, decimal_value_decimal, and_self]
  rw [canonicalAddress, if_neg (fun differs => differs family)]
  dsimp only
  rw [octets.1, octets.2, String.ofList_toList]

theorem bare_hostname_brackets (chars : List Char) :
    bareHostname (String.ofList ('[' :: chars ++ [']'])) = String.ofList chars := by
  simp [bareHostname]

theorem canonical_ipv6 (net : NetIsIP isIP) (hosts : ParsesIpv6Hosts library) {text : String}
    {value : Nat} (address : Ipv6 text.toList value) (zoneless : '%' ∉ text.toList) :
    canonicalAddress isIP library ⟨text, .ipv6⟩ = .ok (String.ofList (serialized value)) := by
  have family := (net.ipv6 text).2 ⟨value, address⟩
  obtain ⟨url, parsed, hostname⟩ := hosts.accepted text value address zoneless
  rw [canonicalAddress, if_neg (fun differs => differs family)]
  dsimp only
  rw [parsed]
  dsimp only
  rw [hostname, bare_hostname_brackets, lowerText, String.toList_ofList, serialized_lower]

/-- Exactly the valid addresses without a zone have a subject. -/
theorem address_subject_ok_iff (net : NetIsIP isIP) (hosts : ParsesIpv6Hosts library)
    (address : ResolvedAddress) :
    (∃ subject, addressSubject isIP library address = .ok subject) ↔
      isIP address.address = some address.family ∧ '%' ∉ address.address.toList := by
  obtain ⟨text, family⟩ := address
  by_cases valid : isIP text = some family
  · cases family with
    | ipv4 =>
        obtain ⟨number, quad⟩ := (net.ipv4 text).1 valid
        have zoneless : '%' ∉ text.toList := by
          intro percent
          rcases quad_char quad percent with same | digit
          · exact absurd same (by decide)
          · exact absurd digit (by decide)
        rw [addressSubject, canonical_ipv4 net quad]
        exact ⟨fun _ => ⟨valid, zoneless⟩, fun _ => ⟨_, rfl⟩⟩
    | ipv6 =>
        obtain ⟨value, address⟩ := (net.ipv6 text).1 valid
        by_cases zoned : '%' ∈ text.toList
        · rw [addressSubject, canonicalAddress, if_neg (fun differs => differs valid)]
          dsimp only
          rw [hosts.zoned text value address zoned]
          refine ⟨?_, fun accepted => absurd zoned accepted.2⟩
          rintro ⟨subject, ⟨⟩⟩
        · rw [addressSubject, canonical_ipv6 net hosts address zoned]
          exact ⟨fun _ => ⟨valid, zoned⟩, fun _ => ⟨_, rfl⟩⟩
  · rw [addressSubject, canonicalAddress, if_pos valid]
    refine ⟨?_, fun accepted => absurd accepted.1 valid⟩
    rintro ⟨subject, ⟨⟩⟩

theorem address_subject_eq_iff (net : NetIsIP isIP) (hosts : ParsesIpv6Hosts library)
    {address other : ResolvedAddress} {subject again : String}
    (first : addressSubject isIP library address = .ok subject)
    (second : addressSubject isIP library other = .ok again) :
    subject = again ↔ address.family = other.family ∧ SameEndpoint address other := by
  obtain ⟨valid, zoneless⟩ := (address_subject_ok_iff net hosts address).1 ⟨subject, first⟩
  obtain ⟨other_valid, other_zoneless⟩ := (address_subject_ok_iff net hosts other).1 ⟨again, second⟩
  obtain ⟨text, family⟩ := address
  obtain ⟨other_text, other_family⟩ := other
  cases family with
  | ipv4 =>
      obtain ⟨number, quad⟩ := (net.ipv4 text).1 valid
      rw [addressSubject, canonical_ipv4 net quad] at first
      obtain rfl := Except.ok.inj first
      cases other_family with
      | ipv4 =>
          obtain ⟨other_number, other_quad⟩ := (net.ipv4 other_text).1 other_valid
          rw [addressSubject, canonical_ipv4 net other_quad] at second
          obtain rfl := Except.ok.inj second
          rw [String.append_right_inj]
          constructor
          · rintro rfl
            exact ⟨rfl, mappedNumber number, .ipv4 quad, .ipv4 quad⟩
          · rintro ⟨-, endpoint, here, there⟩
            cases here with
            | @ipv4 _ number quad =>
                generalize same : mappedNumber number = endpoint at there
                cases there with
                | ipv4 other_quad =>
                    exact String.toList_inj.1 (quad_unique quad other_quad
                      (Nat.add_left_cancel same))
      | ipv6 =>
          obtain ⟨value, written⟩ := (net.ipv6 other_text).1 other_valid
          rw [addressSubject, canonical_ipv6 net hosts written other_zoneless] at second
          obtain rfl := Except.ok.inj second
          refine ⟨fun same => ?_, fun both => (nomatch both.1)⟩
          have texts := congrArg String.toList same
          simp [familyDigit] at texts
  | ipv6 =>
      obtain ⟨value, written⟩ := (net.ipv6 text).1 valid
      rw [addressSubject, canonical_ipv6 net hosts written zoneless] at first
      obtain rfl := Except.ok.inj first
      cases other_family with
      | ipv4 =>
          obtain ⟨other_number, other_quad⟩ := (net.ipv4 other_text).1 other_valid
          rw [addressSubject, canonical_ipv4 net other_quad] at second
          obtain rfl := Except.ok.inj second
          refine ⟨fun same => ?_, fun both => (nomatch both.1)⟩
          have texts := congrArg String.toList same
          simp [familyDigit] at texts
      | ipv6 =>
          obtain ⟨other_value, other_written⟩ := (net.ipv6 other_text).1 other_valid
          rw [addressSubject, canonical_ipv6 net hosts other_written other_zoneless] at second
          obtain rfl := Except.ok.inj second
          rw [String.append_right_inj, String.ofList_inj]
          constructor
          · intro same
            have value_eq := serialized_injective written.value_lt other_written.value_lt same
            rw [← value_eq] at other_written
            exact ⟨rfl, value, .ipv6 written, .ipv6 other_written⟩
          · rintro ⟨-, endpoint, here, there⟩
            cases here with
            | ipv6 here =>
                cases there with
                | ipv6 there =>
                    have left := (ipv6_of_text here).symm.trans (ipv6_of_text written)
                    have right := (ipv6_of_text there).symm.trans (ipv6_of_text other_written)
                    rw [← Except.ok.inj left, ← Except.ok.inj right]

theorem map_m_ok_iff {α β ε : Type} {f : α → Except ε β} {items : List α} :
    (∃ results, items.mapM f = .ok results) ↔ ∀ item ∈ items, ∃ result, f item = .ok result := by
  induction items with
  | nil => exact ⟨fun _ _ member => absurd member List.not_mem_nil, fun _ => ⟨[], rfl⟩⟩
  | cons item items ih =>
      rw [List.forall_mem_cons, ← ih, List.mapM_cons]
      cases f item with
      | error error =>
          exact ⟨fun ⟨_, failed⟩ => (nomatch failed), fun ⟨⟨_, failed⟩, _⟩ => (nomatch failed)⟩
      | ok result =>
          cases items.mapM f with
          | error error =>
              exact ⟨fun ⟨_, failed⟩ => (nomatch failed), fun ⟨_, _, failed⟩ => (nomatch failed)⟩
          | ok results => exact ⟨fun _ => ⟨⟨result, rfl⟩, results, rfl⟩, fun _ => ⟨_, rfl⟩⟩

theorem mem_map_m {α β ε : Type} {f : α → Except ε β} {items : List α} {results : List β}
    (ok : items.mapM f = .ok results) (result : β) :
    result ∈ results ↔ ∃ item ∈ items, f item = .ok result := by
  induction items generalizing results with
  | nil =>
      obtain rfl := Except.ok.inj ok
      simp
  | cons item items ih =>
      rw [List.mapM_cons] at ok
      cases head : f item with
      | error error => rw [head] at ok; cases ok
      | ok first =>
          cases tail : items.mapM f with
          | error error => rw [head, tail] at ok; cases ok
          | ok rest =>
              rw [head, tail] at ok
              obtain rfl := Except.ok.inj ok
              rw [List.mem_cons, ih tail, List.exists_mem_cons_iff, head, Except.ok.injEq,
                eq_comm]

theorem destination_subjects_ok_iff (net : NetIsIP isIP) (hosts : ParsesIpv6Hosts library)
    (destination : SafeDestination library) :
    (∃ subjects, destinationSubjects isIP library destination = .ok subjects) ↔
      Limitable isIP destination := by
  have each : (∃ subjects,
      destination.addresses.mapM (addressSubject isIP library) = .ok subjects) ↔
        ∀ address ∈ destination.addresses,
          isIP address.address = some address.family ∧ '%' ∉ address.address.toList :=
    map_m_ok_iff.trans
      (forall₂_congr fun address _ => address_subject_ok_iff net hosts address)
  by_cases many : maxDestinationAddresses < destination.addresses.length
  · rw [destinationSubjects, if_pos many]
    exact ⟨fun ⟨_, failed⟩ => (nomatch failed), fun limitable =>
      absurd limitable.few (Nat.not_le.2 many)⟩
  · rw [destinationSubjects, if_neg many]
    have limitable_iff : Limitable isIP destination ↔ ∀ address ∈ destination.addresses,
        isIP address.address = some address.family ∧ '%' ∉ address.address.toList :=
      ⟨fun limitable address member =>
        ⟨limitable.valid address member, limitable.zoneless address member⟩,
        fun all => ⟨Nat.le_of_not_lt many, fun address member => (all address member).1,
          fun address member => (all address member).2⟩⟩
    rw [limitable_iff, ← each]
    cases destination.addresses.mapM (addressSubject isIP library) with
    | error error =>
        exact ⟨fun ⟨_, failed⟩ => (nomatch failed), fun ⟨_, failed⟩ => (nomatch failed)⟩
    | ok subjects => exact ⟨fun _ => ⟨subjects, rfl⟩, fun _ => ⟨_, rfl⟩⟩

theorem mem_destination_subjects {destination : SafeDestination library} {subjects : List String}
    (ok : destinationSubjects isIP library destination = .ok subjects) (subject : String) :
    subject ∈ subjects ↔ subject = hostSubject library destination ∨
      ∃ address ∈ destination.addresses, addressSubject isIP library address = .ok subject := by
  unfold destinationSubjects at ok
  split at ok
  · cases ok
  · cases addresses : destination.addresses.mapM (addressSubject isIP library) with
    | error error => rw [addresses] at ok; cases ok
    | ok results =>
        rw [addresses] at ok
        obtain rfl := Except.ok.inj ok
        rw [List.mem_eraseDups, List.mem_cons, mem_map_m addresses]

theorem shares_key_iff (injective : Function.Injective digest)
    {first second : SafeDestination library} {keys again : DestinationKeys}
    {subjects others : List String}
    (first_subjects : destinationSubjects isIP library first = .ok subjects)
    (second_subjects : destinationSubjects isIP library second = .ok others)
    (first_keys : destinationKeys isIP library digest first = .ok keys)
    (second_keys : destinationKeys isIP library digest second = .ok again) :
    (∃ key ∈ keys.acquireKeys, key ∈ again.acquireKeys) ↔
      ∃ subject ∈ subjects, subject ∈ others := by
  rw [destinationKeys, first_subjects] at first_keys
  rw [destinationKeys, second_subjects] at second_keys
  obtain rfl := Except.ok.inj first_keys
  obtain rfl := Except.ok.inj second_keys
  have apart (base other : String) : base ++ ":active" ≠ other ++ ":rate" := by
    intro same
    have ends := congrArg (fun text : String => text.toList.reverse) same
    simp at ends
  simp only [List.flatMap_map, List.mem_flatMap, List.mem_cons, List.not_mem_nil, or_false]
  constructor
  · rintro ⟨key, ⟨subject, member, active | rate⟩, other, among, active' | rate'⟩
    · have same := (String.append_left_inj _).1 (active.symm.trans active')
      rw [injective ((String.append_right_inj _).1 same)] at member
      exact ⟨other, member, among⟩
    · exact absurd (active.symm.trans rate') (apart _ _)
    · exact absurd (active'.symm.trans rate) (apart _ _)
    · have same := (String.append_left_inj _).1 (rate.symm.trans rate')
      rw [injective ((String.append_right_inj _).1 same)] at member
      exact ⟨other, member, among⟩
  · rintro ⟨subject, member, among⟩
    exact ⟨_, ⟨subject, member, .inl rfl⟩, subject, among, .inl rfl⟩

theorem host_subject_eq_iff (first second : SafeDestination library) :
    hostSubject library first = hostSubject library second ↔ SameHost first second :=
  String.append_right_inj _

theorem host_subject_ne_address {destination : SafeDestination library}
    {address : ResolvedAddress} {subject : String}
    (ok : addressSubject isIP library address = .ok subject) :
    hostSubject library destination ≠ subject := by
  unfold addressSubject at ok
  split at ok
  · obtain rfl := Except.ok.inj ok
    intro same
    have starts := congrArg String.toList same
    simp [hostSubject] at starts
  · cases ok

/-- Destinations that get keys share one if the host is the same or an endpoint is written in
one family. -/
theorem shares_subject_iff (net : NetIsIP isIP) (hosts : ParsesIpv6Hosts library)
    {first second : SafeDestination library} {subjects others : List String}
    (first_subjects : destinationSubjects isIP library first = .ok subjects)
    (second_subjects : destinationSubjects isIP library second = .ok others) :
    (∃ subject ∈ subjects, subject ∈ others) ↔
      SameHost first second ∨ SharesInFamily first second := by
  have limitable := (destination_subjects_ok_iff net hosts first).1 ⟨_, first_subjects⟩
  have other_limitable := (destination_subjects_ok_iff net hosts second).1 ⟨_, second_subjects⟩
  simp only [mem_destination_subjects first_subjects, mem_destination_subjects second_subjects]
  constructor
  · rintro ⟨subject, rfl | ⟨address, member, here⟩, same | ⟨other, among, there⟩⟩
    · exact .inl ((host_subject_eq_iff first second).1 same)
    · exact absurd rfl (host_subject_ne_address there)
    · exact absurd same.symm (host_subject_ne_address here)
    · exact .inr ⟨address, member, other, among,
        (address_subject_eq_iff net hosts here there).1 rfl⟩
  · rintro (same | ⟨address, member, other, among, endpoint⟩)
    · exact ⟨_, .inl rfl, .inl ((host_subject_eq_iff first second).2 same)⟩
    · obtain ⟨subject, here⟩ := (address_subject_ok_iff net hosts address).2
        ⟨limitable.valid address member, limitable.zoneless address member⟩
      obtain ⟨again, there⟩ := (address_subject_ok_iff net hosts other).2
        ⟨other_limitable.valid other among, other_limitable.zoneless other among⟩
      obtain rfl := (address_subject_eq_iff net hosts here there).2 endpoint
      exact ⟨subject, .inr ⟨address, member, here⟩, .inr ⟨other, among, there⟩⟩

/-- Where both destinations get keys, they share one exactly if they are the same host or
share an endpoint. -/
def KeysIdentify (isIP : String → Option AddressFamily) (digest : String → String)
    (first second : SafeDestination library) : Prop :=
  ∀ keys again, destinationKeys isIP library digest first = .ok keys →
    destinationKeys isIP library digest second = .ok again →
      ((∃ key ∈ keys.acquireKeys, key ∈ again.acquireKeys) ↔
        SameHost first second ∨ SharesEndpoint first second)

structure MeetOnlyMapped (isIP : String → Option AddressFamily)
    (first second : SafeDestination library) : Prop where
  first_limitable : Limitable isIP first
  second_limitable : Limitable isIP second
  other_host : ¬SameHost first second
  other_families : ¬SharesInFamily first second
  endpoint : SharesEndpoint first second

theorem destination_keys_subjects {destination : SafeDestination library} {keys : DestinationKeys}
    (ok : destinationKeys isIP library digest destination = .ok keys) :
    ∃ subjects, destinationSubjects isIP library destination = .ok subjects := by
  cases subjects : destinationSubjects isIP library destination with
  | error error =>
      rw [destinationKeys, subjects] at ok
      cases ok
  | ok found => exact ⟨found, rfl⟩

theorem limitable_keys (net : NetIsIP isIP) (hosts : ParsesIpv6Hosts library)
    (digest : String → String) {destination : SafeDestination library}
    (limitable : Limitable isIP destination) :
    ∃ keys, destinationKeys isIP library digest destination = .ok keys := by
  obtain ⟨subjects, ok⟩ := (destination_subjects_ok_iff net hosts destination).2 limitable
  rw [destinationKeys, ok]
  exact ⟨_, rfl⟩

theorem shares_endpoint_of_family {first second : SafeDestination library}
    (shared : SharesInFamily first second) : SharesEndpoint first second := by
  obtain ⟨address, member, other, among, -, endpoint⟩ := shared
  exact ⟨address, member, other, among, endpoint⟩

theorem keys_meet_iff (net : NetIsIP isIP) (hosts : ParsesIpv6Hosts library)
    (injective : Function.Injective digest) {first second : SafeDestination library}
    {keys again : DestinationKeys}
    (first_keys : destinationKeys isIP library digest first = .ok keys)
    (second_keys : destinationKeys isIP library digest second = .ok again) :
    (∃ key ∈ keys.acquireKeys, key ∈ again.acquireKeys) ↔
      SameHost first second ∨ SharesInFamily first second := by
  obtain ⟨subjects, ok⟩ := destination_keys_subjects first_keys
  obtain ⟨others, other_ok⟩ := destination_keys_subjects second_keys
  exact (shares_key_iff injective ok other_ok first_keys second_keys).trans
    (shares_subject_iff net hosts ok other_ok)

theorem not_keys_identify (net : NetIsIP isIP) (hosts : ParsesIpv6Hosts library)
    (injective : Function.Injective digest) {first second : SafeDestination library}
    (meet : MeetOnlyMapped isIP first second) : ¬KeysIdentify isIP digest first second := by
  intro identify
  obtain ⟨keys, ok⟩ := limitable_keys net hosts digest meet.first_limitable
  obtain ⟨again, other_ok⟩ := limitable_keys net hosts digest meet.second_limitable
  have shared := (identify keys again ok other_ok).2 (.inr meet.endpoint)
  exact ((keys_meet_iff net hosts injective ok other_ok).1 shared).elim meet.other_host
    meet.other_families

def mappedSample : { value : Nat // value < 2 ^ 128 } :=
  ⟨mappedNumber (quadValue 1 2 3 4), by decide⟩

/-- `http://1.2.3.4/` -/
def quadDestination : SafeDestination literalUrls where
  url := (none : LiteralUrl)
  addresses := [⟨"1.2.3.4", .ipv4⟩]

/-- `http://[::ffff:102:304]/` -/
def mappedDestination : SafeDestination literalUrls where
  url := (some mappedSample : LiteralUrl)
  addresses := [⟨"::ffff:102:304", .ipv6⟩]

theorem quad_text : Quad "1.2.3.4".toList (quadValue 1 2 3 4) :=
  Quad.dotted 1 2 3 4 (by decide) (by decide) (by decide) (by decide)

theorem mapped_text : Ipv6 "::ffff:102:304".toList (mappedNumber (quadValue 1 2 3 4)) := by
  have text : serialized (mappedNumber (quadValue 1 2 3 4)) = "::ffff:102:304".toList := by
    decide +kernel
  rw [← text]
  exact serialized_ipv6 mappedSample.2

theorem mapped_destination_meets :
    MeetOnlyMapped textualIsIP mappedDestination quadDestination where
  first_limitable := by
    refine ⟨by decide, ?_, ?_⟩ <;> intro address member <;> rw [List.mem_singleton.1 member]
    · exact (textual_is_ip.ipv6 _).2 ⟨_, mapped_text⟩
    · decide
  second_limitable := by
    refine ⟨by decide, ?_, ?_⟩ <;> intro address member <;> rw [List.mem_singleton.1 member]
    · exact (textual_is_ip.ipv4 _).2 ⟨_, quad_text⟩
    · decide
  other_host := by
    have differ : normalizedHostname (literalHostname (some mappedSample)) ≠
        normalizedHostname (literalHostname none) := by
      decide +kernel
    exact differ
  other_families := by
    rintro ⟨address, member, other, among, family, -⟩
    rw [List.mem_singleton.1 member, List.mem_singleton.1 among] at family
    cases family
  endpoint := ⟨_, List.mem_singleton_self _, _, List.mem_singleton_self _, _,
    .ipv6 mapped_text, .ipv4 quad_text⟩

/-- The keys identify the endpoints unless the destinations meet in a mapped address only. -/
theorem limiter_keys_identify_endpoints_iff (net : NetIsIP isIP) (hosts : ParsesIpv6Hosts library)
    (injective : Function.Injective digest) (first second : SafeDestination library) :
    KeysIdentify isIP digest first second ↔ ¬MeetOnlyMapped isIP first second := by
  refine ⟨fun identify meet => not_keys_identify net hosts injective meet identify, ?_⟩
  intro apart keys again ok other_ok
  rw [keys_meet_iff net hosts injective ok other_ok]
  refine or_congr_right' fun other_host => ⟨shares_endpoint_of_family, fun endpoint => ?_⟩
  by_contra other_families
  obtain ⟨_, subjects⟩ := destination_keys_subjects ok
  obtain ⟨_, others⟩ := destination_keys_subjects other_ok
  exact apart ⟨(destination_subjects_ok_iff net hosts first).1 ⟨_, subjects⟩,
    (destination_subjects_ok_iff net hosts second).1 ⟨_, others⟩, other_host, other_families,
    endpoint⟩

theorem limiter_keys_identify_endpoints_iff_same_host :
    KeysIdentify textualIsIP id mappedDestination mappedDestination :=
  (limiter_keys_identify_endpoints_iff textual_is_ip literal_urls_parse Function.injective_id
    mappedDestination mappedDestination).2 fun meet => meet.other_host rfl

theorem limiter_keys_differ_for_mapped :
    ¬KeysIdentify textualIsIP id mappedDestination quadDestination :=
  not_keys_identify textual_is_ip literal_urls_parse Function.injective_id
    mapped_destination_meets

end LinkAlive.Monitoring
