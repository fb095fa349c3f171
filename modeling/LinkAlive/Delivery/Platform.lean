import LinkAlive.Domain.Types
import LinkAlive.Foundation.Texts

/-!
# What delivery takes from the platform

Numbers, dates and JSON. A number is whatever the platform has for one, with the operations
that the code applies to it; a JSON value is the object that `JSON.parse` gives, in
well-formed Unicode.
-/

namespace LinkAlive.Delivery

set_option autoImplicit false

/-- A string as its UTF-16 code units, which a cut may leave without half of a pair. -/
abbrev Units := List Nat

def newline : Nat := 0x0A

theorem newline_mem_code_units {text : String} :
    newline ∈ codeUnits text ↔ Char.ofNat newline ∈ text.toList := by
  rw [codeUnits, List.mem_flatMap]
  constructor
  · rintro ⟨char, member, unit⟩
    split at unit
    case isTrue =>
        rw [List.mem_singleton.1 unit, Char.ofNat_toNat]
        exact member
    case isFalse =>
        -- a surrogate is no line feed
        simp only [List.mem_cons, List.not_mem_nil, or_false, newline] at unit
        omega
  · intro member
    exact ⟨_, member, by decide⟩

structure NumberLibrary where
  Number : Type
  ofNat : Nat → Number
  /-- `Number(text)`. -/
  read : String → Number
  isFinite : Number → Bool
  isNegative : Number → Bool
  exceeds : Number → Nat → Bool
  /-- `String(value)`. -/
  text : Number → String
  /-- `Math.round(value)` of a finite value. -/
  round : Number → Int
  /-- `Math.round(value / 1000)` of a finite value that is not negative. -/
  roundSeconds : Number → Nat
  /-- `Math.ceil(value * 1000)` of a finite value that is not negative. -/
  milliseconds : Number → Nat

def wholeNumbers : NumberLibrary where
  Number := Nat
  ofNat value := value
  read text := text.toNat?.getD 0
  isFinite _ := true
  isNegative _ := false
  exceeds value limit := decide (limit < value)
  text value := toString value
  round value := value
  roundSeconds value := (value + 500) / 1000
  milliseconds value := 1000 * value

def NumberLibrary.OneLine (numbers : NumberLibrary) : Prop :=
  ∀ value, newline ∉ codeUnits (numbers.text value)

inductive JsonValue (Number : Type)
  | null
  | bool (value : Bool)
  | number (value : Number)
  | string (value : String)
  | array (items : List (JsonValue Number))
  | object (fields : List (String × JsonValue Number))

namespace JsonValue

variable {Number : Type}

/-- `value[key]` of an object that is no array; `none` is `undefined`. -/
def field (value : JsonValue Number) (key : String) : Option (JsonValue Number) :=
  match value with
  | .object fields => fields.lookup key
  | _ => none

def isObject : JsonValue Number → Bool
  | .object _ => true
  | _ => false

def string? : JsonValue Number → Option String
  | .string value => some value
  | _ => none

def number? : JsonValue Number → Option Number
  | .number value => some value
  | _ => none

end JsonValue

/-- `JSON.stringify` and `JSON.parse`, which throws on what is no JSON. -/
structure JsonLibrary (numbers : NumberLibrary) where
  stringify : JsonValue numbers.Number → String
  parse : Units → Option (JsonValue numbers.Number)

/-- A key that keeps its place in an object; one that reads as an integer moves to the front. -/
def plainKey (key : String) : Bool := key.toList.head?.any Char.isLower

/-- An object of texts under such keys is read back, and there is no JSON without a character. -/
structure JsonLibrary.KeepsTexts {numbers : NumberLibrary} (json : JsonLibrary numbers) : Prop where
  texts : ∀ fields : List (String × String), (fields.map Prod.fst).Nodup →
    (∀ entry ∈ fields, plainKey entry.1 = true) →
    json.parse (codeUnits (json.stringify
      (.object (fields.map fun entry => (entry.1, .string entry.2))))) =
        some (.object (fields.map fun entry => (entry.1, .string entry.2)))
  empty : json.parse [] = none

/-- The parts of a date in Korea, as `formatToParts` gives them. -/
structure DateParts where
  year : String
  month : String
  day : String
  hour : String
  minute : String
  second : String
deriving DecidableEq, Repr

structure DateLibrary where
  /-- `new Date(text).getTime()`; `none` is NaN. -/
  read : String → Option Int
  toISOString : Int → String
  formatToParts : Int → DateParts

def DateParts.text (parts : DateParts) : String :=
  parts.year ++ "-" ++ parts.month ++ "-" ++ parts.day ++ " " ++ parts.hour ++ ":" ++
    parts.minute ++ ":" ++ parts.second ++ " (KST)"

def DateLibrary.OneLine (dates : DateLibrary) : Prop :=
  ∀ time, newline ∉ codeUnits (dates.formatToParts time).text

end LinkAlive.Delivery
