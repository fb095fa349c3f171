import LinkAlive.Monitoring.PublicAddresses
import LinkAlive.Monitoring.UrlPolicy

/-!
# URLs of addresses

What the URL parser makes of an IPv6 address in brackets, as an assumption on the platform's
`URL`, and a small platform that meets it.
-/

namespace LinkAlive.Monitoring

set_option autoImplicit false

open AddressText

/-- The URL parser on hosts in brackets: it serializes the address and refuses a zone. -/
structure ParsesIpv6Hosts (library : UrlLibrary) : Prop where
  accepted : ∀ (text : String) (value : Nat), Ipv6 text.toList value → '%' ∉ text.toList →
    ∃ url, library.parse ("http://[" ++ text ++ "]/") = some url ∧
      library.hostname url = String.ofList ('[' :: serialized value ++ [']'])
  zoned : ∀ (text : String) (value : Nat), Ipv6 text.toList value → '%' ∈ text.toList →
    library.parse ("http://[" ++ text ++ "]/") = none

/-- The URLs `http://1.2.3.4/` and `http://[address]/`. -/
abbrev LiteralUrl := Option { value : Nat // value < 2 ^ 128 }

def literalHostname : LiteralUrl → String
  | none => "1.2.3.4"
  | some value => String.ofList ('[' :: serialized value.1 ++ [']'])

def literalText (url : LiteralUrl) : String := "http://" ++ literalHostname url ++ "/"

def IsAddressUrl (text : String) (value : { value : Nat // value < 2 ^ 128 }) : Prop :=
  ∃ address : String, text = "http://[" ++ address ++ "]/" ∧
    Ipv6 address.toList value.1 ∧ '%' ∉ address.toList

open Classical in
noncomputable def literalParse (text : String) : Option LiteralUrl :=
  if text = literalText none then some none
  else if spelled : ∃ value, IsAddressUrl text value then some (some spelled.choose)
  else none

theorem address_url_unique {address : String} {value other : { value : Nat // value < 2 ^ 128 }}
    (written : Ipv6 address.toList other.1)
    (spelled : IsAddressUrl ("http://[" ++ address ++ "]/") value) : value = other := by
  obtain ⟨again, same, denoted, -⟩ := spelled
  have addresses := (String.append_right_inj _).1 ((String.append_left_inj _).1 same)
  rw [← addresses] at denoted
  have numbers := (ipv6_of_text denoted).symm.trans (ipv6_of_text written)
  exact Subtype.ext (Except.ok.inj numbers)

theorem literal_text_name (text : String) : "http://[" ++ text ++ "]/" ≠ literalText none := by
  intro same
  have texts := congrArg String.toList same
  simp [literalText, literalHostname] at texts

theorem literal_parse_address {address : String} {value : { value : Nat // value < 2 ^ 128 }}
    (written : Ipv6 address.toList value.1) (zoneless : '%' ∉ address.toList) :
    literalParse ("http://[" ++ address ++ "]/") = some (some value) := by
  have spelled : ∃ value, IsAddressUrl ("http://[" ++ address ++ "]/") value :=
    ⟨value, address, rfl, written, zoneless⟩
  rw [literalParse, if_neg (literal_text_name address), dif_pos spelled,
    address_url_unique written spelled.choose_spec]

theorem percent_not_mem_serialized (value : Nat) : '%' ∉ serialized value := by
  have free := percent_not_mem_words (serialized_words value)
  rwa [serialized_lower] at free

theorem literal_text_address (value : { value : Nat // value < 2 ^ 128 }) :
    literalText (some value) = "http://[" ++ String.ofList (serialized value.1) ++ "]/" := by
  apply String.toList_inj.1
  simp [literalText, literalHostname]

theorem trim_literal_text (url : LiteralUrl) : trimText (literalText url) = literalText url := by
  have whole : (literalText url).toList =
      'h' :: ("ttp://".toList ++ (literalHostname url).toList) ++ ['/'] := by
    simp [literalText]
  rw [trimText, whole, trimChars, List.cons_append, List.dropWhile_cons_of_neg (by decide),
    ← List.cons_append, List.rdropWhile_concat_neg _ _ _ (by decide), ← whole,
    String.ofList_toList]

/-- The platform's URLs as far as the host is an address. -/
noncomputable def literalUrls : UrlLibrary where
  Url := LiteralUrl
  parse := literalParse
  serialize := literalText
  protocol _ := "http:"
  hostname := literalHostname
  search _ := ""
  withoutHash url := url
  withoutCredentials url := url
  withSearch url _ := url
  isIP text := (textualIsIP text).isSome
  parse_serialize url := by
    cases url with
    | none => exact if_pos rfl
    | some value =>
        rw [literal_text_address]
        refine literal_parse_address ?_ ?_
        · rw [String.toList_ofList]
          exact serialized_ipv6 value.2
        · rw [String.toList_ofList]
          exact percent_not_mem_serialized value.1
  without_hash_twice _ := rfl
  protocol_without_hash _ := rfl
  hostname_without_hash _ := rfl
  trim_serialize url _ := trim_literal_text url

theorem literal_parse_zoned {text : String} (zoned : '%' ∈ text.toList) :
    literalParse ("http://[" ++ text ++ "]/") = none := by
  have none_spelled : ¬∃ value, IsAddressUrl ("http://[" ++ text ++ "]/") value := by
    rintro ⟨value, again, same, -, zoneless⟩
    have addresses := (String.append_right_inj _).1 ((String.append_left_inj _).1 same)
    rw [← addresses] at zoneless
    exact zoneless zoned
  rw [literalParse, if_neg (literal_text_name text), dif_neg none_spelled]

theorem literal_urls_parse : ParsesIpv6Hosts literalUrls where
  accepted _ value written zoneless :=
    ⟨some ⟨value, written.value_lt⟩, literal_parse_address written zoneless, rfl⟩
  zoned _ _ _ zoned := literal_parse_zoned zoned

end LinkAlive.Monitoring
