import Mathlib.Data.List.DropRight
import LinkAlive.Foundation.Bitwise
import LinkAlive.Monitoring.Keyword

/-!
# Public addresses

`isPublicAddress` of `packages/monitoring/src/url-policy.ts` and what it calls. `isIP` of
`node:net` is a parameter. What is thrown is an error with its message.
-/

namespace LinkAlive.Monitoring

set_option autoImplicit false

def invalidIpv4 : String := "Invalid IPv4 address"

def addOctet (value : Nat) (part : List Char) : Except String Nat :=
  if part.length ∉ [1, 2, 3] ∨ !part.all Char.isDigit then .error invalidIpv4
  else if 255 < decimalValue part then .error invalidIpv4
  else .ok (Bitwise.shiftRight (Bitwise.or (Bitwise.shiftLeft value 8) (decimalValue part)) 0)

def ipv4ToNumber (address : List Char) : Except String Nat :=
  let parts := address.splitOn '.'
  if parts.length ≠ 4 then .error invalidIpv4
  else do
    let value ← parts.foldlM addOctet 0
    return Bitwise.shiftRight value 0

structure Cidr4 where
  base : Nat
  mask : Nat
deriving DecidableEq, Repr

def parseCidr4 (cidr : List Char) : Except String Cidr4 :=
  let pieces := cidr.splitOn '/'
  let mask := Bitwise.mask (decimalValue (pieces.getD 1 []))
  do
    let address ← ipv4ToNumber (pieces.headD [])
    return ⟨Bitwise.shiftRight (Bitwise.and address mask) 0, mask⟩

def blockedIpv4Cidrs : Except String (List Cidr4) :=
  ["0.0.0.0/8", "10.0.0.0/8", "100.64.0.0/10", "127.0.0.0/8", "169.254.0.0/16",
    "172.16.0.0/12", "192.0.0.0/24", "192.0.2.0/24", "192.88.99.0/24", "192.168.0.0/16",
    "198.18.0.0/15", "198.51.100.0/24", "203.0.113.0/24", "224.0.0.0/4",
    "240.0.0.0/4"].mapM fun cidr => parseCidr4 cidr.toList

def Cidr4.covers (cidr : Cidr4) (value : Nat) : Bool :=
  Bitwise.shiftRight (Bitwise.and value cidr.mask) 0 = cidr.base

def isBlockedIpv4 (address : List Char) : Except String Bool := do
  let cidrs ← blockedIpv4Cidrs
  let value ← ipv4ToNumber address
  return cidrs.any fun cidr => cidr.covers value

def invalidIpv6 : String := "Invalid IPv6 address"

def withoutZone (address : List Char) : List Char := address.takeWhile fun char => char ≠ '%'

/-- `number.toString(16)`, for a number that is not negative -/
def hexText (number : Int) : List Char := Nat.toDigits 16 number.toNat

/-- The dotted quad after the last colon becomes two groups. -/
def withoutQuad (address : List Char) : Except String (List Char) :=
  if '.' ∉ address then .ok address
  else if ':' ∉ address then .error invalidIpv6
  else do
    let ipv4 ← ipv4ToNumber (address.rtakeWhile fun char => char ≠ ':')
    return (address.rdropWhile fun char => char ≠ ':') ++
      hexText (Bitwise.shiftRight ipv4 16) ++ ':' :: hexText (Bitwise.and ipv4 0xffff)

/-- `address.split('::')` -/
def splitDouble : List Char → List (List Char)
  | [] => [[]]
  | [char] => [[char]]
  | first :: second :: rest =>
      if first = ':' ∧ second = ':' then [] :: splitDouble rest
      else (splitDouble (second :: rest)).modifyHead (List.cons first)

def groupsOf (half : List Char) : List (List Char) := if half = [] then [] else half.splitOn ':'

def allGroups (address : List Char) : Except String (List (List Char)) :=
  let halves := splitDouble address
  let left := groupsOf (halves.headD [])
  let right := if halves.length = 2 then groupsOf (halves.getD 1 []) else []
  let missing : Int := 8 - left.length - right.length
  let groups := left ++ List.replicate missing.toNat ['0'] ++ right
  if 2 < halves.length then .error invalidIpv6
  else if (halves.length = 1 ∧ missing ≠ 0) ∨ missing < 0 then .error invalidIpv6
  else if groups.length ≠ 8 then .error invalidIpv6
  else .ok groups

def isHexDigit (char : Char) : Bool := char.isDigit || ('a' ≤ char && char ≤ 'f')

def hexDigitValue (char : Char) : Nat :=
  if char.isDigit then char.toNat - '0'.toNat else 10 + (char.toNat - 'a'.toNat)

/-- `Number.parseInt(group, 16)` of hexadecimal digits in lower case -/
def hexValue (group : List Char) : Nat :=
  group.foldl (fun value digit => 16 * value + hexDigitValue digit) 0

def addGroup (value : Nat) (group : List Char) : Except String Nat :=
  if group.length ∉ [1, 2, 3, 4] ∨ !group.all isHexDigit then .error invalidIpv6
  else .ok (value <<< 16 ||| hexValue group)

def parseIpv6 (input : List Char) : Except String Nat := do
  let address ← withoutQuad (withoutZone (input.map Char.toLower))
  let groups ← allGroups address
  groups.foldlM addGroup 0

def isInIpv6Cidr (value base length : Nat) : Bool :=
  if length = 0 then true else value >>> (128 - length) = base >>> (128 - length)

def joinNumbers (numbers : List Int) : List Char :=
  ['.'].intercalate (numbers.map fun number => (toString number).toList)

def mappedIpv4 (value : Nat) : Option (List Char) :=
  if value >>> 32 ≠ 0xffff then none
  else
    let raw := value &&& 0xffffffff
    some (joinNumbers [(Bitwise.shiftRight raw 24 : Nat),
      Bitwise.and (Bitwise.shiftRight raw 16) 255, Bitwise.and (Bitwise.shiftRight raw 8) 255,
      Bitwise.and raw 255])

def blockedIpv6Cidrs : Except String (List (Nat × Nat)) :=
  [("2001::", 23), ("2001:db8::", 32), ("2002::", 16), ("3fff::", 20)].mapM fun cidr =>
    (parseIpv6 cidr.1.toList).map fun base => (base, cidr.2)

def isBlockedIpv6 (address : List Char) : Except String Bool := do
  let cidrs ← blockedIpv6Cidrs
  let value ← parseIpv6 address
  match mappedIpv4 value with
  | some mapped => isBlockedIpv4 mapped
  | none =>
      let globalUnicast ← parseIpv6 "2000::".toList
      if !isInIpv6Cidr value globalUnicast 3 then return true
      else return cidrs.any fun cidr => isInIpv6Cidr value cidr.1 cidr.2

def isPublicAddress (isIP : String → Option AddressFamily) (address : String) : Bool :=
  let blocked :=
    match isIP address with
    | some .ipv4 => isBlockedIpv4 address.toList
    | some .ipv6 => isBlockedIpv6 address.toList
    | none => .ok true
  match blocked with
  | .ok blocked => !blocked
  | .error _ => false

end LinkAlive.Monitoring
