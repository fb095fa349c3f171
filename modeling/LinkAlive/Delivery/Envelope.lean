import LinkAlive.Api.Channels
import LinkAlive.Delivery.Platform
import LinkAlive.Foundation.Base64
import LinkAlive.Foundation.Utf8

/-!
# Encrypted columns

The envelopes of `apps/api/src/common/crypto.ts` and `apps/worker/src/crypto.ts`, and the
tombstone of `packages/database/src/secret-tombstone.ts`. What the API encrypts the worker
decrypts, and nobody decrypts a tombstone: the bytes of a column are what the tables of the
model keep of them.
-/

namespace LinkAlive.Delivery

set_option autoImplicit false

abbrev Bytes := List UInt8

/-- AES-256-GCM of the platform. `decipher` fails where the tag does not fit, or where the
platform accepts no vector or tag of that length. -/
structure AesGcm where
  Key : Type
  /-- The ciphertext and its tag. -/
  cipher : Key → Bytes → Bytes → Bytes × Bytes
  decipher : Key → Bytes → Bytes → Bytes → Option Bytes
  cipher_length : ∀ key iv plain, (cipher key iv plain).1.length = plain.length
  tag_length : ∀ key iv plain, (cipher key iv plain).2.length = 16
  decipher_cipher : ∀ key iv plain, iv.length = 12 →
    decipher key iv (cipher key iv plain).2 (cipher key iv plain).1 = some plain

def version : List Char := "v1".toList

/-- `encryptString`; `iv` are its 12 random bytes. -/
def encryptString (gcm : AesGcm) (key : gcm.Key) (iv : Bytes) (value : String) : String :=
  let (ciphertext, tag) := gcm.cipher key iv (Utf8.encode value)
  String.ofList (['.'].intercalate
    [version, Base64.encode iv, Base64.encode tag, Base64.encode ciphertext])

/-- `decryptString` of a text; `none` where it throws. -/
def decryptString (gcm : AesGcm) (key : gcm.Key) (value : String) : Option String :=
  match value.toList.splitOn '.' with
  | format :: iv :: tag :: ciphertext :: _ =>
      if format ≠ version || iv = [] || tag = [] || ciphertext = [] then none
      else
        (gcm.decipher key (Base64.decode iv) (Base64.decode tag) (Base64.decode ciphertext)).map
          Utf8.text
  | _ => none

/-- `decryptString` of the worker, on the bytes of a column. -/
def decryptBytes (gcm : AesGcm) (key : gcm.Key) (value : Bytes) : Option String :=
  decryptString gcm key (Utf8.text value)

/-- `new TextDecoder('utf-8', { fatal: true }).decode(value)`. -/
def decodeFatal (value : Bytes) : Option String :=
  if Utf8.encode (Utf8.text value) ≠ value then none
  else some (String.ofList ((Utf8.stripMark false (Utf8.scalars value)).1.map Char.ofNat))

def decryptColumn (gcm : AesGcm) (key : gcm.Key) (value : Bytes) : Option String := do
  let text ← decodeFatal value
  decryptString gcm key text

/-- `textEncoder.encode(encryptString(value, key))`. -/
def encryptedBytes (gcm : AesGcm) (key : gcm.Key) (iv : Bytes) (value : String) : Bytes :=
  Utf8.encode (encryptString gcm key iv value)

def secretTombstoneText : String := "linkalive:secret-tombstone:v1"

def secretTombstoneBytes : Bytes := Utf8.encode secretTombstoneText

def isSecretTombstone (value : Bytes) : Bool :=
  if value.length ≠ secretTombstoneBytes.length then false
  else (value.zip secretTombstoneBytes).all fun pair => pair.1 = pair.2

theorem is_secret_tombstone_iff {value : Bytes} :
    isSecretTombstone value = true ↔ value = secretTombstoneBytes := by
  rw [isSecretTombstone]
  split
  case isTrue other =>
    constructor
    · intro same
      cases same
    · rintro rfl
      exact absurd rfl other
  case isFalse same =>
    have length : value.length = secretTombstoneBytes.length := not_not.1 same
    constructor
    · intro equal
      apply List.ext_getElem length
      intro index first second
      have member : (value[index], secretTombstoneBytes[index]) ∈
          value.zip secretTombstoneBytes :=
        List.mem_iff_getElem.2 ⟨index, by rw [List.length_zip]; omega, List.getElem_zip⟩
      exact of_decide_eq_true (List.all_eq_true.1 equal _ member)
    · rintro rfl
      decide +kernel

section Envelopes

variable {gcm : AesGcm} {key : gcm.Key} {iv : Bytes}

theorem encrypt_segments (value : String) :
    (encryptString gcm key iv value).toList.splitOn '.' =
      [version, Base64.encode iv, Base64.encode (gcm.cipher key iv (Utf8.encode value)).2,
        Base64.encode (gcm.cipher key iv (Utf8.encode value)).1] := by
  have free : ∀ source, '.' ∉ Base64.encode source := Base64.encode_free (by decide)
  rw [encryptString]
  dsimp only
  rw [String.toList_ofList]
  apply List.splitOn_intercalate
  · intro segment member
    simp only [List.mem_cons, List.not_mem_nil, or_false] at member
    rcases member with rfl | rfl | rfl | rfl
    · decide
    · exact free _
    · exact free _
    · exact free _
  · exact List.cons_ne_nil _ _

/-- What is encrypted is decrypted, but for the empty text, which no envelope can carry. -/
theorem decrypt_encrypt (nonce : iv.length = 12) (value : String) :
    decryptString gcm key (encryptString gcm key iv value) =
      if value = "" then none else some value := by
  have vector : Base64.encode iv ≠ [] := by
    rw [Ne, Base64.encode_eq_nil]
    rintro rfl
    cases nonce
  have tag : Base64.encode (gcm.cipher key iv (Utf8.encode value)).2 ≠ [] := by
    rw [Ne, Base64.encode_eq_nil]
    intro empty
    have length := gcm.tag_length key iv (Utf8.encode value)
    rw [empty] at length
    cases length
  have content : Base64.encode (gcm.cipher key iv (Utf8.encode value)).1 = [] ↔ value = "" := by
    rw [Base64.encode_eq_nil, ← List.length_eq_zero_iff, gcm.cipher_length, List.length_eq_zero_iff,
      Utf8.encode_eq_nil]
  rw [decryptString, encrypt_segments]
  dsimp only
  by_cases empty : value = ""
  · rw [if_pos empty, if_pos]
    simp [content.2 empty]
  · have filled := mt content.1 empty
    rw [if_neg empty, if_neg (by simp [vector, tag, filled]), Base64.decode_encode,
      Base64.decode_encode, Base64.decode_encode, gcm.decipher_cipher key iv _ nonce, Option.map_some,
      Utf8.text_encode]

theorem decrypt_tombstone (key : gcm.Key) : decryptString gcm key secretTombstoneText = none := by
  have whole : secretTombstoneText.toList.splitOn '.' = [secretTombstoneText.toList] :=
    List.splitOn_eq_singleton (by decide)
  rw [decryptString, whole]

theorem decode_fatal_encode {value : String}
    (unmarked : value.toList.head? ≠ some (Char.ofNat Utf8.byteOrderMark)) :
    decodeFatal (Utf8.encode value) = some value := by
  have scalars : Utf8.scalars (Utf8.encode value) = value.toList.map Char.toNat := by
    rw [Utf8.scalars, Utf8.encode, Utf8.push_encoded_chars]
    exact List.append_nil _
  have kept : (Utf8.stripMark false (value.toList.map Char.toNat)).1 =
      value.toList.map Char.toNat := by
    cases shape : value.toList with
    | nil => rfl
    | cons first rest =>
        have other : first.toNat ≠ Utf8.byteOrderMark := by
          intro same
          rw [shape, ← same, Char.ofNat_toNat] at unmarked
          exact unmarked rfl
        rw [List.map_cons, Utf8.stripMark]
        simp [other]
  have chars : (value.toList.map Char.toNat).map Char.ofNat = value.toList := by
    rw [List.map_map, show Char.ofNat ∘ Char.toNat = id from funext Char.ofNat_toNat, List.map_id]
  rw [decodeFatal, Utf8.text_encode, if_neg (not_not.2 rfl), scalars, kept, chars,
    String.ofList_toList]

theorem encrypted_head (value : String) :
    (encryptString gcm key iv value).toList.head? = some 'v' := by
  rw [encryptString]
  dsimp only
  rw [String.toList_ofList]
  rfl

end Envelopes

/-- The bytes of a column, under some vector, for what the tables keep of it. -/
inductive StoredAs (gcm : AesGcm) (key : gcm.Key) {Plain : Type} (text : Plain → String) :
    Sealed Plain → Bytes → Prop
  | envelope (plain : Plain) (iv : Bytes) : iv.length = 12 →
      StoredAs gcm key text (.envelope plain) (encryptedBytes gcm key iv (text plain))
  | tombstone : StoredAs gcm key text .tombstone secretTombstoneBytes

def content {Plain : Type} : Sealed Plain → Option Plain
  | .envelope plain => some plain
  | .tombstone => none

section Columns

variable {gcm : AesGcm} {key : gcm.Key} {Plain : Type} {text : Plain → String}
  {column : Sealed Plain} {bytes : Bytes}

theorem stored_is_tombstone (stored : StoredAs gcm key text column bytes) :
    isSecretTombstone bytes = column.isTombstone := by
  cases stored with
  | envelope plain iv =>
      rw [Sealed.isTombstone, Bool.eq_false_iff]
      intro same
      rw [is_secret_tombstone_iff] at same
      have read := congrArg Utf8.text same
      rw [encryptedBytes, secretTombstoneBytes, Utf8.text_encode, Utf8.text_encode] at read
      have head : (encryptString gcm key iv (text plain)).toList.head? = some 'v' :=
        encrypted_head _
      rw [read] at head
      exact absurd head (by decide)
  | tombstone => exact is_secret_tombstone_iff.2 rfl

theorem decrypt_bytes_stored (stored : StoredAs gcm key text column bytes)
    (filled : ∀ plain, text plain ≠ "") :
    decryptBytes gcm key bytes = (content column).map text := by
  cases stored with
  | envelope plain iv nonce =>
      rw [decryptBytes, encryptedBytes, Utf8.text_encode, decrypt_encrypt nonce,
        if_neg (filled plain)]
      rfl
  | tombstone =>
      rw [decryptBytes, secretTombstoneBytes, Utf8.text_encode, decrypt_tombstone]
      rfl

theorem decrypt_column_stored (stored : StoredAs gcm key text column bytes)
    (filled : ∀ plain, text plain ≠ "") :
    decryptColumn gcm key bytes = (content column).map text := by
  cases stored with
  | envelope plain iv nonce =>
      have unmarked : (encryptString gcm key iv (text plain)).toList.head? ≠
          some (Char.ofNat Utf8.byteOrderMark) := by
        rw [encrypted_head]
        decide
      rw [decryptColumn, encryptedBytes, decode_fatal_encode unmarked]
      change decryptString gcm key _ = _
      rw [decrypt_encrypt nonce, if_neg (filled plain)]
      rfl
  | tombstone =>
      rw [decryptColumn, secretTombstoneBytes, decode_fatal_encode (by decide)]
      exact decrypt_tombstone key

end Columns

end LinkAlive.Delivery
