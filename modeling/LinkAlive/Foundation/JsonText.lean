import Mathlib.Data.List.Basic

/-!
# JSON objects of texts

An object whose members are texts, as `JSON.stringify` writes it, and a reader of such
objects. A quoted text is read back whatever follows it.
-/

namespace LinkAlive.JsonText

set_option autoImplicit false

def hexDigits : List Char := "0123456789abcdef".toList

def control (char : Char) : List Char :=
  if char = '\t' then ['\\', 't']
  else if char = '\n' then ['\\', 'n']
  else if char = '\r' then ['\\', 'r']
  else if char = Char.ofNat 8 then ['\\', 'b']
  else if char = Char.ofNat 12 then ['\\', 'f']
  else
    ['\\', 'u', '0', '0', hexDigits.getD (char.toNat / 16) '0',
      hexDigits.getD (char.toNat % 16) '0']

def escape (char : Char) : List Char :=
  if char = '"' then ['\\', '"']
  else if char = '\\' then ['\\', '\\']
  else if char.toNat < 0x20 then control char
  else [char]

def quote (text : String) : List Char := '"' :: (text.toList.flatMap escape ++ ['"'])

def hexValue (char : Char) : Option Nat :=
  if char.isUpper then hexDigits.idxOf? char.toLower else hexDigits.idxOf? char

def scalar (digits : List Char) : Option Char := do
  let values ← digits.mapM hexValue
  let value := values.foldl (fun total digit => 16 * total + digit) 0
  if value.isValidChar then some (Char.ofNat value) else none

def shortEscape (char : Char) : Option Char :=
  if char = '"' ∨ char = '\\' ∨ char = '/' then some char
  else if char = 't' then some '\t'
  else if char = 'n' then some '\n'
  else if char = 'r' then some '\r'
  else if char = 'b' then some (Char.ofNat 8)
  else if char = 'f' then some (Char.ofNat 12)
  else none

/-- The rest of a text behind its opening quote, and what follows the closing one. -/
def readQuoted : List Char → Option (List Char × List Char)
  | [] => none
  | ['\\'] => none
  | '\\' :: 'u' :: a :: b :: c :: d :: rest => do
      let char ← scalar [a, b, c, d]
      let (chars, rest) ← readQuoted rest
      some (char :: chars, rest)
  | '\\' :: escaped :: rest => do
      let char ← shortEscape escaped
      let (chars, rest) ← readQuoted rest
      some (char :: chars, rest)
  | char :: rest =>
      if char = '"' then some ([], rest)
      else if char.toNat < 0x20 then none
      else do
        let (chars, rest) ← readQuoted rest
        some (char :: chars, rest)

def found (char : Char) (read : List Char × List Char) : List Char × List Char :=
  (char :: read.1, read.2)

theorem read_short {escaped char : Char} (short : shortEscape escaped = some char)
    (rest : List Char) :
    readQuoted ('\\' :: escaped :: rest) = (readQuoted rest).map (found char) := by
  have other : escaped ≠ 'u' := by
    rintro rfl
    have unknown : shortEscape 'u' = none := by decide
    rw [unknown] at short
    cases short
  rw [readQuoted, short]
  · cases readQuoted rest <;> rfl
  · intro a b c d more same
    exact absurd same other

theorem scalar_control (value : Nat) (small : value < 32) :
    scalar ['0', '0', hexDigits.getD (value / 16) '0', hexDigits.getD (value % 16) '0'] =
      some (Char.ofNat value) := by
  revert value
  decide +kernel

theorem read_control {char : Char} (small : char.toNat < 0x20) (rest : List Char) :
    readQuoted (control char ++ rest) = (readQuoted rest).map (found char) := by
  rw [control]
  split
  case isTrue same =>
    rw [same]
    exact read_short rfl rest
  split
  case isTrue same =>
    rw [same]
    exact read_short rfl rest
  split
  case isTrue same =>
    rw [same]
    exact read_short rfl rest
  split
  case isTrue same =>
    rw [same]
    exact read_short rfl rest
  split
  case isTrue same =>
    rw [same]
    exact read_short rfl rest
  case isFalse =>
    have value := scalar_control char.toNat small
    rw [Char.ofNat_toNat] at value
    simp only [List.cons_append, List.nil_append, readQuoted]
    rw [value]
    cases readQuoted rest <;> rfl

theorem read_plain {char : Char} (quoted : char ≠ '"') (escaped : char ≠ '\\')
    (visible : ¬char.toNat < 0x20) (rest : List Char) :
    readQuoted (char :: rest) = (readQuoted rest).map (found char) := by
  rw [readQuoted]
  · rw [if_neg quoted, if_neg visible]
    cases readQuoted rest <;> rfl
  · intro same
    exact absurd same escaped
  · intro a b c d more same
    exact absurd same escaped
  · intro other more same
    exact absurd same escaped

theorem read_escape (char : Char) (rest : List Char) :
    readQuoted (escape char ++ rest) = (readQuoted rest).map (found char) := by
  rw [escape]
  split
  case isTrue same =>
    rw [same]
    exact read_short rfl rest
  split
  case isTrue same =>
    rw [same]
    exact read_short rfl rest
  split
  case isTrue small => exact read_control small rest
  case isFalse quoted escaped visible => exact read_plain quoted escaped visible rest

theorem read_quoted (chars rest : List Char) :
    readQuoted (chars.flatMap escape ++ '"' :: rest) = some (chars, rest) := by
  induction chars with
  | nil => rfl
  | cons char chars induction =>
      rw [List.flatMap_cons, List.append_assoc, read_escape, induction]
      rfl

def member (entry : String × String) : List Char := quote entry.1 ++ ':' :: quote entry.2

def object (members : List (String × String)) : List Char :=
  '{' :: ([','].intercalate (members.map member) ++ ['}'])

def readText : List Char → Option (String × List Char)
  | '"' :: rest => do
      let (chars, rest) ← readQuoted rest
      some (String.ofList chars, rest)
  | _ => none

def readMember (input : List Char) : Option ((String × String) × List Char) := do
  let (name, rest) ← readText input
  match rest with
  | ':' :: rest => do
      let (value, rest) ← readText rest
      some ((name, value), rest)
  | _ => none

/-- The members up to the closing brace; the fuel bounds their number. -/
def readMembers : Nat → List Char → Option (List (String × String))
  | 0, _ => none
  | fuel + 1, input => do
      let (entry, rest) ← readMember input
      match rest with
      | ['}'] => some [entry]
      | ',' :: rest => do
          let entries ← readMembers fuel rest
          some (entry :: entries)
      | _ => none

def readObject (input : List Char) : Option (List (String × String)) :=
  match input with
  | ['{', '}'] => some []
  | '{' :: rest => readMembers rest.length rest
  | _ => none

theorem read_text_quote (text : String) (rest : List Char) :
    readText (quote text ++ rest) = some (text, rest) := by
  rw [quote, List.cons_append, List.append_assoc, readText, List.singleton_append, read_quoted]
  change some (String.ofList text.toList, rest) = _
  rw [String.ofList_toList]

theorem read_member (entry : String × String) (rest : List Char) :
    readMember (member entry ++ rest) = some (entry, rest) := by
  rw [readMember, member, List.append_assoc, List.cons_append, read_text_quote]
  change (readText (quote entry.2 ++ rest)).bind _ = _
  rw [read_text_quote]
  rfl

theorem read_members (entry : String × String) (entries : List (String × String)) (fuel : Nat)
    (enough : entries.length < fuel) :
    readMembers fuel ([','].intercalate ((entry :: entries).map member) ++ ['}']) =
      some (entry :: entries) := by
  induction entries generalizing entry fuel with
  | nil =>
      cases fuel with
      | zero => cases enough
      | succ fuel =>
          rw [List.map_singleton, List.intercalate_singleton, readMembers, read_member]
          rfl
  | cons second entries induction =>
      cases fuel with
      | zero => cases enough
      | succ fuel =>
          rw [List.map_cons, List.map_cons, List.intercalate_cons_cons, List.append_assoc,
            List.append_assoc, readMembers, read_member]
          change (readMembers fuel ([','].intercalate ((second :: entries).map member) ++
            ['}'])).bind _ = _
          rw [induction second fuel (Nat.lt_of_succ_lt_succ enough)]
          rfl

theorem intercalate_length (entries : List (String × String)) :
    entries.length ≤ ([','].intercalate (entries.map member)).length := by
  have filled : ∀ entry, 1 ≤ (member entry).length := fun entry => by simp [member, quote]
  induction entries with
  | nil => exact Nat.zero_le _
  | cons first entries induction =>
      cases entries with
      | nil =>
          rw [List.map_singleton, List.intercalate_singleton]
          exact filled first
      | cons second entries =>
          rw [List.map_cons, List.map_cons, List.intercalate_cons_cons, List.length_append,
            List.length_append, List.length_singleton, List.length_cons, Nat.add_comm]
          exact Nat.add_le_add (Nat.le_add_left _ _) induction

theorem read_object (members : List (String × String)) :
    readObject (object members) = some members := by
  cases members with
  | nil => rfl
  | cons entry entries =>
      have long := intercalate_length (entry :: entries)
      have read := read_members entry entries
        ([','].intercalate ((entry :: entries).map member) ++ ['}']).length
        (by rw [List.length_append]; exact Nat.lt_succ_of_le (Nat.le_of_succ_le long))
      rw [object, readObject]
      · exact read
      · intro same
        have braces := congrArg List.length same
        rw [List.length_append, List.length_singleton] at braces
        rw [List.length_cons] at long
        omega

end LinkAlive.JsonText
