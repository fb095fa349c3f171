import LinkAlive.Monitoring.PublicAddresses
import LinkAlive.Monitoring.ReferenceCheck

/-!
# Reference URLs

`referenceUrlSchema` and the URLs of `networkSettingsSchema` of
`apps/api/src/network/network.schemas.ts`, and where the checks of accepted URLs connect to.
-/

namespace LinkAlive.Network

open Monitoring

set_option autoImplicit false

/-- `isIP(host) === 6 ? [host] : host` -/
def bracketedHost (isIP : String → Option AddressFamily) (host : String) : String :=
  if isIP host = some .ipv6 then "[" ++ host ++ "]" else host

/-- The members of a `URL` that the schema uses, with the laws of the URL standard for the
host name: it has no brackets but those around an address, and it may be set to itself without
a trailing dot. -/
structure UrlMembers (library : UrlLibrary) (isIP : String → Option AddressFamily) where
  hash : library.Url → String
  username : library.Url → String
  password : library.Url → String
  withHostname : library.Url → String → library.Url
  is_ip : ∀ text, library.isIP text = (isIP text).isSome
  no_brackets : ∀ url, '[' ∉ (normalizedHostname (library.hostname url)).toList ∧
    ']' ∉ (normalizedHostname (library.hostname url)).toList
  hostname_with_hostname : ∀ url,
    library.isIP (normalizedHostname (library.hostname url)) ∨
        hostnameAllowed (normalizedHostname (library.hostname url)) →
      library.hostname (withHostname url
          (bracketedHost isIP (normalizedHostname (library.hostname url)))) =
        bracketedHost isIP (normalizedHostname (library.hostname url))

section Schema

variable {library : UrlLibrary} {isIP : String → Option AddressFamily}
  (members : UrlMembers library isIP)

def hostAccepted (isIP : String → Option AddressFamily) (host : String) : Bool :=
  if (isIP host).isSome then isPublicAddress isIP host
  else host.toList.contains '.' && !".localhost".toList.isSuffixOf host.toList &&
    !".local".toList.isSuffixOf host.toList

/-- `referenceUrlSchema`; `none` is its issue. -/
def referenceUrl (text : String) : Option String := do
  let value := trimText text
  let original ← library.parse value
  let url ← library.parseMonitorUrl value
  let host := normalizedHostname (library.hostname url)
  if textLength value < 1 ∨ 2048 < textLength value then none
  else if members.hash original ≠ "" then none
  else if members.username url ≠ "" ∨ members.password url ≠ "" ∨ library.search url ≠ "" ∨
      members.hash url ≠ "" then none
  else if !hostAccepted isIP host then none
  else some (library.serialize (members.withHostname url (bracketedHost isIP host)))

/-- The URLs of `networkSettingsSchema`: the list, and no two of one host name. -/
def networkUrls (enabled : Bool) (inputs : List String) : Option (List String) := do
  let urls ← inputs.mapM (referenceUrl members)
  let hostnames := urls.map fun url => (library.parse url).map library.hostname
  if 5 < inputs.length then none
  else if enabled ∧ urls.length < 2 then none
  else if hostnames.eraseDups.length ≠ urls.length then none
  else some urls

end Schema

variable {library : UrlLibrary} {isIP : String → Option AddressFamily}
  {members : UrlMembers library isIP}

def AcceptedHost (library : UrlLibrary) (isIP : String → Option AddressFamily) (url : String) :
    Prop :=
  ∀ found, parseMonitorUrl library url = .ok found →
    (isIP (bareHostname (library.hostname found))).isSome →
      isPublicAddress isIP (bareHostname (library.hostname found)) = true

theorem bare_bracketed {host : String} (opening : '[' ∉ host.toList) (closing : ']' ∉ host.toList) :
    bareHostname (bracketedHost isIP host) = host := by
  unfold bracketedHost
  split
  · have text : "[" ++ host ++ "]" = String.ofList ('[' :: host.toList ++ [']']) := by
      apply String.toList_inj.1
      simp
    rw [text, bareHostname]
    simp
  · have first : host.toList.head? ≠ some '[' := fun head =>
      opening (List.mem_of_mem_head? head)
    have last : host.toList.getLast? ≠ some ']' := fun end_ =>
      closing (List.mem_of_getLast? end_)
    simp [bareHostname, first, last]

theorem parse_monitor_url_ok {url : String} {found : library.Url}
    (parsed : parseMonitorUrl library url = .ok found) :
    ∃ raw, library.parse url = some raw ∧ found = library.withoutHash raw ∧
      (library.isIP (normalizedHostname (library.hostname raw)) ∨
        hostnameAllowed (normalizedHostname (library.hostname raw))) := by
  unfold parseMonitorUrl at parsed
  split at parsed
  · cases parsed
  · rename_i raw parse
    dsimp only at parsed
    split at parsed
    · cases parsed
    split at parsed
    · cases parsed
    split at parsed
    · cases parsed
    · rename_i accepted
      refine ⟨raw, parse, (Except.ok.inj parsed).symm, ?_⟩
      simpa [or_iff_not_imp_left] using accepted

/-- The schema's answer where no condition fails. -/
theorem reference_url_some {text : String} {original checked : library.Url}
    (parsed : library.parse (trimText text) = some original)
    (policy : library.parseMonitorUrl (trimText text) = some checked)
    (length : ¬(textLength (trimText text) < 1 ∨ 2048 < textLength (trimText text)))
    (hashless : members.hash original = "")
    (plain : members.username checked = "" ∧ members.password checked = "" ∧
      library.search checked = "" ∧ members.hash checked = "")
    (host : hostAccepted isIP (normalizedHostname (library.hostname checked)) = true) :
    referenceUrl members text = some (library.serialize (members.withHostname checked
      (bracketedHost isIP (normalizedHostname (library.hostname checked))))) := by
  obtain ⟨username, password, search, hash⟩ := plain
  simp [referenceUrl, parsed, policy, hashless, username, password, search, hash, host]
  simpa [not_or] using length

theorem reference_url_accepted {text url : String}
    (accepted : referenceUrl members text = some url) :
    AcceptedHost library isIP url := by
  unfold referenceUrl at accepted
  simp only [Option.bind_eq_bind, Option.bind_eq_some_iff] at accepted
  obtain ⟨original, -, checked, parsed, accepted⟩ := accepted
  split at accepted
  · cases accepted
  split at accepted
  · cases accepted
  split at accepted
  · cases accepted
  split at accepted
  · cases accepted
  rename_i public_host
  obtain rfl := Option.some.inj accepted
  have policy : parseMonitorUrl library (trimText text) = .ok checked := by
    rw [← parse_monitor_url_to_option] at parsed
    cases outcome : parseMonitorUrl library (trimText text) with
    | error failure => rw [outcome] at parsed; cases parsed
    | ok again => rw [outcome] at parsed; rw [Option.some.inj parsed]
  obtain ⟨raw, -, hashless, allowed⟩ := parse_monitor_url_ok policy
  have hostnames : library.hostname checked = library.hostname raw := by
    rw [hashless, library.hostname_without_hash]
  rw [← hostnames] at allowed
  intro found again literal
  obtain ⟨final, parse, rfl, -⟩ := parse_monitor_url_ok again
  rw [library.parse_serialize] at parse
  obtain rfl := Option.some.inj parse
  have brackets := members.no_brackets checked
  rw [library.hostname_without_hash, members.hostname_with_hostname checked allowed,
    bare_bracketed brackets.1 brackets.2] at literal ⊢
  have accepted_host :
      hostAccepted isIP (normalizedHostname (library.hostname checked)) = true := by
    simpa using public_host
  rwa [hostAccepted, if_pos literal] at accepted_host

theorem map_m_reference_url {inputs urls : List String}
    (accepted : inputs.mapM (referenceUrl members) = some urls) :
    ∀ url ∈ urls, AcceptedHost library isIP url := by
  induction inputs generalizing urls with
  | nil =>
      obtain rfl := Option.some.inj accepted
      exact fun _ member => absurd member List.not_mem_nil
  | cons input inputs ih =>
      simp only [List.mapM_cons, Option.bind_eq_bind, Option.bind_eq_some_iff] at accepted
      obtain ⟨first, head, rest, tail, whole⟩ := accepted
      obtain rfl := Option.some.inj whole
      intro url member
      rcases List.mem_cons.1 member with rfl | later
      · exact reference_url_accepted head
      · exact ih tail url later

theorem network_urls_accepted {enabled : Bool} {inputs urls : List String}
    (accepted : networkUrls members enabled inputs = some urls) :
    ∀ url ∈ urls, AcceptedHost library isIP url := by
  simp only [networkUrls, Option.bind_eq_bind, Option.bind_eq_some_iff] at accepted
  obtain ⟨results, mapped, accepted⟩ := accepted
  split at accepted
  · cases accepted
  split at accepted
  · cases accepted
  split at accepted
  · cases accepted
  · obtain rfl := Option.some.inj accepted
    exact map_m_reference_url mapped

section Requests

variable {World : Type} {env : Environment World} {lookup : DnsLookup World}

/-- Every address that a request of the checks may go to is public. -/
def ContactsOnlyPublic (isIP : String → Option AddressFamily) (env : Environment World)
    (probes : List (String × World)) : Prop :=
  ∀ address ∈ contactedAddresses env probes, isPublicAddress isIP address.address = true

/-- DNS answers with public addresses only, for every URL whose host is a name. -/
def AnswersOnlyPublic (isIP : String → Option AddressFamily) (env : Environment World)
    (lookup : DnsLookup World) (probes : List (String × World)) : Prop :=
  ∀ probe ∈ probes, ∀ found, parseMonitorUrl env.urls probe.1 = .ok found →
    isIP (bareHostname (env.urls.hostname found)) = none →
      ∀ entries, (lookup.entries (bareHostname (env.urls.hostname found))
          (resolvingWorld env probe.2)).1 = some entries →
        ∀ entry ∈ entries, isPublicAddress isIP entry.address = true

theorem answered_unparsed {url : String} {failure : CheckFailure}
    (isIP : String → Option AddressFamily)
    (unparsed : parseMonitorUrl env.urls url = .error failure) (world : World) :
    answered (env.withDefaults isIP lookup) url world = [] := by
  have same : parseMonitorUrl (env.withDefaults isIP lookup).urls url = .error failure := unparsed
  rw [answered, same]

theorem answered_parsed {url : String} {found : env.urls.Url}
    (isIP : String → Option AddressFamily)
    (parsed : parseMonitorUrl env.urls url = .ok found) (world : World) :
    answered (env.withDefaults isIP lookup) url world =
      match (nodeDnsResolver isIP lookup (bareHostname (env.urls.hostname found)) world).1 with
      | .ok addresses => addresses.eraseDups
      | .error _ => [] := by
  have same : parseMonitorUrl (env.withDefaults isIP lookup).urls url = .ok found := parsed
  rw [answered, same]
  rfl

/-- What the default resolver answers is public if DNS answers so, or if the host is a literal
that the schema has accepted. -/
theorem answered_public_iff {url : String} {isIP : String → Option AddressFamily}
    (accepted : AcceptedHost env.urls isIP url) (world : World) :
    (∀ address ∈ answered (env.withDefaults isIP lookup) url world,
        isPublicAddress isIP address.address = true) ↔
      ∀ found, parseMonitorUrl env.urls url = .ok found →
        isIP (bareHostname (env.urls.hostname found)) = none →
          ∀ entries, (lookup.entries (bareHostname (env.urls.hostname found)) world).1 =
              some entries →
            ∀ entry ∈ entries, isPublicAddress isIP entry.address = true := by
  cases parsed : parseMonitorUrl env.urls url with
  | error failure =>
      rw [answered_unparsed isIP parsed]
      exact ⟨fun _ _ ok => (nomatch ok), fun _ _ member => (nomatch member)⟩
  | ok found =>
      rw [answered_parsed isIP parsed]
      have unique : (∀ again, (.ok found : Except CheckFailure env.urls.Url) = .ok again →
          isIP (bareHostname (env.urls.hostname again)) = none →
            ∀ entries, (lookup.entries (bareHostname (env.urls.hostname again)) world).1 =
                some entries →
              ∀ entry ∈ entries, isPublicAddress isIP entry.address = true) ↔
          (isIP (bareHostname (env.urls.hostname found)) = none →
            ∀ entries, (lookup.entries (bareHostname (env.urls.hostname found)) world).1 =
                some entries →
              ∀ entry ∈ entries, isPublicAddress isIP entry.address = true) :=
        ⟨fun all => all found rfl, fun one again same => by
          obtain rfl := Except.ok.inj same
          exact one⟩
      rw [unique]
      have literal := accepted found parsed
      revert literal
      generalize bareHostname (env.urls.hostname found) = host
      intro literal
      unfold nodeDnsResolver
      cases shape : isIP host with
      | some family =>
          have public_host := literal (by rw [shape]; rfl)
          refine ⟨fun _ name => (nomatch name), fun _ address member => ?_⟩
          obtain rfl : address = ⟨host, family⟩ := by simpa using member
          exact public_host
      | none =>
          dsimp only
          cases answer : lookup.entries host world with
          | mk entries after =>
              cases entries with
              | none =>
                  exact ⟨fun _ _ _ found => (nomatch found), fun _ _ member => (nomatch member)⟩
              | some entries =>
                  constructor
                  · intro all _ others same
                    obtain rfl := Option.some.inj same
                    exact fun entry member => all entry (List.mem_eraseDups.2 member)
                  · exact fun all address member =>
                      all rfl entries rfl address (List.mem_eraseDups.1 member)

theorem contacts_only_public_iff {isIP : String → Option AddressFamily}
    (jar : EmptyJarAnswers env) {probes : List (String × World)}
    (accepted : ∀ probe ∈ probes, AcceptedHost env.urls isIP probe.1) :
    ContactsOnlyPublic isIP (env.withDefaults isIP lookup) probes ↔
      AnswersOnlyPublic isIP env lookup probes := by
  have each (probe : String × World) (member : probe ∈ probes) :
      (∀ address ∈ requestedAddresses (finalSession ((checkReferenceUrl probe.1).run
          (Session.start (env.withDefaults isIP lookup) probe.2 probe.1))).log,
        isPublicAddress isIP address.address = true) ↔
      ∀ found, parseMonitorUrl env.urls probe.1 = .ok found →
        isIP (bareHostname (env.urls.hostname found)) = none →
          ∀ entries, (lookup.entries (bareHostname (env.urls.hostname found))
              (resolvingWorld env probe.2)).1 = some entries →
            ∀ entry ∈ entries, isPublicAddress isIP entry.address = true := by
    have requests : requestedAddresses (finalSession ((checkReferenceUrl probe.1).run
        (Session.start (env.withDefaults isIP lookup) probe.2 probe.1))).log =
          answered (env.withDefaults isIP lookup) probe.1 (resolvingWorld env probe.2) :=
      check_reference_url_requests probe.1
        (show (env.withDefaults isIP lookup).acquire = none from rfl) jar probe.2
    rw [requests]
    exact answered_public_iff (accepted probe member) _
  unfold ContactsOnlyPublic AnswersOnlyPublic contactedAddresses checkReferenceUrls
  simp only [List.mem_flatMap, List.mem_map]
  constructor
  · intro all probe member
    refine (each probe member).1 fun address among => ?_
    exact all address ⟨_, ⟨probe, member, rfl⟩, among⟩
  · rintro all address ⟨_, ⟨probe, member, rfl⟩, among⟩
    exact (each probe member).2 (all probe member) address among

end Requests

def namedText (url : Bool) : String := if url then "http://a.example/" else "http://b.example/"

def namedHost (url : Bool) : String := if url then "a.example" else "b.example"

def namedParse (text : String) : Option Bool :=
  if text = namedText true then some true else if text = namedText false then some false else none

noncomputable def namedUrls : UrlLibrary where
  Url := Bool
  parse := namedParse
  serialize := namedText
  protocol _ := "http:"
  hostname := namedHost
  search _ := ""
  withoutHash url := url
  withoutCredentials url := url
  withSearch url _ := url
  isIP text := (textualIsIP text).isSome
  parse_serialize := by decide
  without_hash_twice _ := rfl
  protocol_without_hash _ := rfl
  hostname_without_hash _ := rfl
  trim_serialize := by decide +kernel

theorem named_normalized (url : Bool) : normalizedHostname (namedHost url) = namedHost url := by
  cases url <;> decide +kernel

theorem named_host_is_name (url : Bool) : textualIsIP (namedHost url) = none := by
  apply textual_is_ip_name 'e' <;> cases url <;> decide

theorem named_bracketed (url : Bool) :
    bracketedHost textualIsIP (namedHost url) = namedHost url := by
  rw [bracketedHost, named_host_is_name, if_neg (by decide)]

theorem named_no_brackets (url : Bool) : '[' ∉ (normalizedHostname (namedHost url)).toList ∧
    ']' ∉ (normalizedHostname (namedHost url)).toList := by
  rw [named_normalized]
  cases url <;> decide

theorem named_hostname (url : Bool) :
    namedHost url = bracketedHost textualIsIP (normalizedHostname (namedHost url)) := by
  rw [named_normalized, named_bracketed]

noncomputable def namedMembers : UrlMembers namedUrls textualIsIP where
  hash _ := ""
  username _ := ""
  password _ := ""
  withHostname url _ := url
  is_ip _ := rfl
  no_brackets := named_no_brackets
  hostname_with_hostname url _ := named_hostname url

theorem named_parsed (url : Bool) : parseMonitorUrl namedUrls (namedText url) = .ok url := by
  have parse : namedUrls.parse (namedText url) = some url := namedUrls.parse_serialize url
  have allowed : hostnameAllowed (namedHost url) = true := by cases url <;> decide +kernel
  have hosted : namedHost url ≠ "" := by cases url <;> decide
  unfold parseMonitorUrl
  rw [parse]
  change (let hostname := normalizedHostname (namedHost url)
    if "http:" ∉ ["http:", "https:"] then _
    else if namedHost url = "" then _
    else if !namedUrls.isIP hostname && !hostnameAllowed hostname then _
    else _) = _
  rw [named_normalized]
  simp [hosted, allowed]
  rfl

theorem named_host_accepted (url : Bool) :
    hostAccepted textualIsIP (normalizedHostname (namedHost url)) = true := by
  rw [named_normalized, hostAccepted, named_host_is_name]
  cases url <;> decide

theorem named_policy (url : Bool) : namedUrls.parseMonitorUrl (namedText url) = some url := by
  rw [← parse_monitor_url_to_option, named_parsed]
  rfl

theorem named_trimmed (url : Bool) : trimText (namedText url) = namedText url := by
  cases url <;> decide +kernel

theorem named_accepted (url : Bool) :
    referenceUrl namedMembers (namedText url) = some (namedText url) := by
  have length : ¬(textLength (trimText (namedText url)) < 1 ∨
      2048 < textLength (trimText (namedText url))) := by
    rw [named_trimmed]
    cases url <;> decide +kernel
  have parsed : namedUrls.parse (trimText (namedText url)) = some url := by
    rw [named_trimmed]
    exact namedUrls.parse_serialize url
  have policy : namedUrls.parseMonitorUrl (trimText (namedText url)) = some url := by
    rw [named_trimmed, named_policy]
  have accepted : referenceUrl namedMembers (namedText url) = _ :=
    reference_url_some parsed policy length rfl ⟨rfl, rfl, rfl, rfl⟩ (named_host_accepted url)
  rw [accepted]
  rfl

def namedInputs : List String := [namedText true, namedText false]

theorem named_urls_accepted : networkUrls namedMembers true namedInputs = some namedInputs := by
  have mapped : namedInputs.mapM (referenceUrl namedMembers) = some namedInputs := by
    simp only [namedInputs, List.mapM_cons, List.mapM_nil, named_accepted, Option.bind_eq_bind,
      Option.bind_some, Option.pure_def]
  have apart : (namedInputs.map fun url => (namedParse url).map namedHost).eraseDups.length =
      namedInputs.length := by
    decide +kernel
  simp only [networkUrls, mapped, Option.bind_eq_bind, Option.bind_some]
  change (if 5 < namedInputs.length then none
    else if true = true ∧ namedInputs.length < 2 then none
    else if (namedInputs.map fun url => (namedParse url).map namedHost).eraseDups.length ≠
      namedInputs.length then none else some namedInputs) = some namedInputs
  rw [if_neg (by decide), if_neg (by decide), if_neg (fun differs => differs apart)]

def constantLookup (address : ResolvedAddress) : DnsLookup Unit where
  entries _ world := (some [address], world)
  aborted _ := false

/-- A platform whose clocks stand still and whose servers answer every request alike. -/
noncomputable def namedEnvironment : Environment Unit where
  urls := namedUrls
  newUrl text _ := namedUrls.parse text
  cookies := ⟨Unit, (), fun jar _ _ => (.ok "", jar), fun jar _ _ _ => (.ok (), jar)⟩
  textDecoder := utf8Decoder
  decompress _ body := body
  aborted _ := false
  now world := (0, world)
  monotonicNow world := (0, world)
  resolve _ world := (.ok [], world)
  acquire := none
  request _ _ world := (.ok (sampleResponse cutBody), world)

def namedProbes : List (String × Unit) := namedInputs.map fun url => (url, ())

theorem named_answers_iff (address : ResolvedAddress) :
    AnswersOnlyPublic textualIsIP namedEnvironment (constantLookup address) namedProbes ↔
      isPublicAddress textualIsIP address.address = true := by
  have bare (url : Bool) : bareHostname (namedHost url) = namedHost url := by
    cases url <;> decide +kernel
  have name (url : Bool) : textualIsIP (bareHostname (namedHost url)) = none := by
    rw [bare, named_host_is_name]
  constructor
  · intro all
    exact all (namedText true, ()) List.mem_cons_self true (named_parsed true) (name true)
      [address] rfl address (List.mem_singleton_self _)
  · rintro holds probe - found - - entries same entry member
    obtain rfl := Option.some.inj same
    rw [List.mem_singleton.1 member]
    exact holds

theorem private_address : isPublicAddress textualIsIP "10.0.0.1" = false := by
  have quad : AddressText.Quad "10.0.0.1".toList (AddressText.quadValue 10 0 0 1) :=
    .dotted 10 0 0 1 (by decide) (by decide) (by decide) (by decide)
  rw [← Bool.not_eq_true, public_ipv4_iff textual_is_ip quad, not_not]
  exact ⟨(AddressText.quadValue 10 0 0 0, 8), by decide, by decide⟩

theorem public_address : isPublicAddress textualIsIP "93.184.215.14" = true := by
  have quad : AddressText.Quad "93.184.215.14".toList (AddressText.quadValue 93 184 215 14) :=
    .dotted 93 184 215 14 (by decide) (by decide) (by decide) (by decide)
  have outside : ∀ block ∈ reservedIpv4,
      ¬Bitwise.InBlock 32 block.1 block.2 (AddressText.quadValue 93 184 215 14) := by
    decide
  rw [public_ipv4_iff textual_is_ip quad]
  rintro ⟨block, listed, inside⟩
  exact outside block listed inside

theorem named_listed : namedProbes.map Prod.fst = namedInputs := by
  rw [namedProbes, List.map_map]
  exact List.map_id _

theorem named_jar : EmptyJarAnswers namedEnvironment := fun _ _ => rfl

noncomputable def namedEnvironmentMembers : UrlMembers namedEnvironment.urls textualIsIP :=
  namedMembers

theorem named_environment_accepted :
    networkUrls namedEnvironmentMembers true namedInputs = some namedInputs :=
  named_urls_accepted

theorem probes_accepted {World : Type} {env : Environment World}
    {isIP : String → Option AddressFamily} {members : UrlMembers env.urls isIP} {enabled : Bool}
    {inputs urls : List String} (accepted : networkUrls members enabled inputs = some urls)
    {probes : List (String × World)} (listed : probes.map Prod.fst = urls) :
    ∀ probe ∈ probes, AcceptedHost env.urls isIP probe.1 := by
  intro probe member
  refine network_urls_accepted accepted probe.1 ?_
  rw [← listed]
  exact List.mem_map_of_mem member

/-- The checks of accepted URLs contact public addresses only if DNS answers so: the addresses
that it answers with are not checked again. -/
theorem reference_probes_public_iff {World : Type} {env : Environment World}
    {lookup : DnsLookup World} {isIP : String → Option AddressFamily}
    (members : UrlMembers env.urls isIP) (jar : EmptyJarAnswers env) {enabled : Bool}
    {inputs urls : List String} (accepted : networkUrls members enabled inputs = some urls)
    {probes : List (String × World)} (listed : probes.map Prod.fst = urls) :
    ContactsOnlyPublic isIP (env.withDefaults isIP lookup) probes ↔
      AnswersOnlyPublic isIP env lookup probes :=
  contacts_only_public_iff jar (probes_accepted accepted listed)

theorem reference_probes_public_iff_named :
    ContactsOnlyPublic textualIsIP
      (namedEnvironment.withDefaults textualIsIP (constantLookup ⟨"93.184.215.14", .ipv4⟩))
      namedProbes :=
  (reference_probes_public_iff namedEnvironmentMembers named_jar named_environment_accepted
    named_listed).2
    ((named_answers_iff _).2 public_address)

/-- A name that is accepted and answered with a private address. -/
theorem reference_probe_contacts_private :
    networkUrls namedEnvironmentMembers true namedInputs = some namedInputs ∧
      ¬ContactsOnlyPublic textualIsIP
        (namedEnvironment.withDefaults textualIsIP (constantLookup ⟨"10.0.0.1", .ipv4⟩))
        namedProbes := by
  refine ⟨named_environment_accepted, fun contacts => ?_⟩
  have probes : ∀ probe ∈ namedProbes, AcceptedHost namedEnvironment.urls textualIsIP probe.1 :=
    probes_accepted named_environment_accepted named_listed
  have answers := (contacts_only_public_iff named_jar probes).1 contacts
  exact Bool.false_ne_true (private_address.symm.trans ((named_answers_iff _).1 answers))

end LinkAlive.Network
