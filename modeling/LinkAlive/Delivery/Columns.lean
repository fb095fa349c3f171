import Mathlib.Data.List.Forall2
import LinkAlive.Delivery.Envelope
import LinkAlive.Foundation.JsonText
import LinkAlive.Foundation.Lockstep
import LinkAlive.Worker.NotificationProcessor

/-!
# The configuration of a channel

How the channel service writes a channel's configuration into its column, how an outbox row
keeps a copy of the column, and how the worker reads a destination from the copy. On bytes
and on the sealed values of the tables the same operations have the same effect, so that a
worker sends to the destination that the channel had when the row was written, or nowhere.
-/

namespace LinkAlive.Delivery

set_option autoImplicit false

/-- A thrown `NotificationProviderError` with its code. -/
structure ProviderError extends NotificationProviderError where
  code : String
deriving DecidableEq, Repr

def configError (message : String) : ProviderError where
  code := "INVALID_CHANNEL_CONFIG"
  retryable := false
  deliveryUncertain := false
  retryAfterMs := none
  safeMessage := message

/-- The services' view of the encryption: the platform, and the key of the deployment. -/
structure Vault where
  numbers : NumberLibrary
  json : JsonLibrary numbers
  gcm : AesGcm
  key : gcm.Key

section Configuration

variable (vault : Vault)

def storedConfig (config : ChannelConfig) : List (String × String) :=
  [("type", "TELEGRAM"), ("botToken", config.botToken), ("chatId", config.chatId)]

/-- `JSON.stringify` of the stored configuration. -/
def configText (config : ChannelConfig) : String :=
  vault.json.stringify (.object ((storedConfig config).map fun entry => (entry.1, .string entry.2)))

def encodeConfig (iv : Bytes) (config : ChannelConfig) : Bytes :=
  encryptedBytes vault.gcm vault.key iv (configText vault config)

/-- `decodeConfig` with the test of the type that its callers make. -/
def decodeConfig (value : Bytes) : Option ChannelConfig := do
  let text ← decryptColumn vault.gcm vault.key value
  let config ← vault.json.parse (codeUnits text)
  let type ← (config.field "type").bind JsonValue.string?
  if type ≠ "TELEGRAM" then none
  else do
    let botToken ← (config.field "botToken").bind JsonValue.string?
    let chatId ← (config.field "chatId").bind JsonValue.string?
    some ⟨botToken, chatId⟩

/-- `decryptJson` of the worker. -/
def decryptJson (value : Bytes) : Option (JsonValue vault.numbers.Number) := do
  let text ← decryptBytes vault.gcm vault.key value
  vault.json.parse (codeUnits text)

def telegramDestination {Number : Type} (value : JsonValue Number) :
    Except ProviderError ChannelConfig :=
  if !value.isObject then .error (configError "Telegram 채널 설정을 읽을 수 없습니다.")
  else
    match (value.field "botToken").bind JsonValue.string?,
      (value.field "chatId").bind JsonValue.string? with
    | some botToken, some chatId => .ok ⟨botToken, chatId⟩
    | _, _ => .error (configError "Telegram bot 또는 채팅 대상이 설정되어 있지 않습니다.")

end Configuration

section Stored

variable {vault : Vault}

theorem parse_config_text (texts : vault.json.KeepsTexts) (config : ChannelConfig) :
    vault.json.parse (codeUnits (configText vault config)) =
      some (.object ((storedConfig config).map fun entry => (entry.1, .string entry.2))) :=
  texts.texts (storedConfig config) (by simp [storedConfig])
    (by simp only [storedConfig, List.forall_mem_cons]; decide)

theorem config_text_filled (texts : vault.json.KeepsTexts) (config : ChannelConfig) :
    configText vault config ≠ "" := by
  intro empty
  have parsed := parse_config_text texts config
  rw [empty] at parsed
  exact absurd (texts.empty.symm.trans parsed) (by simp)

theorem worker_destination (texts : vault.json.KeepsTexts) {column : Sealed ChannelConfig}
    {bytes : Bytes} (stored : StoredAs vault.gcm vault.key (configText vault) column bytes) :
    (decryptJson vault bytes).map telegramDestination = (content column).map Except.ok := by
  rw [decryptJson, decrypt_bytes_stored stored (config_text_filled texts)]
  cases column with
  | tombstone => rfl
  | envelope config =>
      change Option.map _ (vault.json.parse (codeUnits (configText vault config))) = _
      rw [parse_config_text texts]
      rfl

theorem decode_config_stored (texts : vault.json.KeepsTexts) {column : Sealed ChannelConfig}
    {bytes : Bytes} (stored : StoredAs vault.gcm vault.key (configText vault) column bytes) :
    decodeConfig vault bytes = content column := by
  rw [decodeConfig, decrypt_column_stored stored (config_text_filled texts)]
  cases column with
  | tombstone => rfl
  | envelope config =>
      change (vault.json.parse (codeUnits (configText vault config))).bind _ = _
      rw [parse_config_text texts]
      rfl

end Stored

/-- What the statements about a column are made of. -/
structure ColumnOps (Column : Type) where
  encode : Bytes → ChannelConfig → Column
  decode : Column → Option ChannelConfig
  tombstone : Column

def columnBytes (vault : Vault) : ColumnOps Bytes where
  encode := encodeConfig vault
  decode := decodeConfig vault
  tombstone := secretTombstoneBytes

def sealedColumns : ColumnOps (Sealed ChannelConfig) where
  encode _ := .envelope
  decode := content
  tombstone := .tombstone

/-- The column of one channel, and the copies in its outbox rows. -/
structure Columns (Column : Type) where
  channel : Option Column
  snapshots : List Column

/-- The statements, with the random bytes that an encryption draws. -/
inductive ColumnStatement
  | create (config : ChannelConfig) (iv : Bytes)
  | update (patch : ChannelPatch) (iv : Bytes)
  | remove
  /-- An outbox row is written. -/
  | snapshot
  /-- The secret of an outbox row is retired. -/
  | retire (index : Nat)

def ColumnStatement.Drawn : ColumnStatement → Prop
  | .create _ iv => iv.length = 12
  | .update _ iv => iv.length = 12
  | _ => True

/-- The configuration part of `NotificationChannelsService.update`; `none` where the stored
configuration cannot be read. -/
def updateColumn {Column : Type} (ops : ColumnOps Column) (column : Column) (patch : ChannelPatch)
    (iv : Bytes) : Option Column :=
  if patch.botToken.isSome || patch.chatId.isSome then do
    let current ← ops.decode column
    if patch.destination current ≠ current then some (ops.encode iv (patch.destination current))
    else some column
  else some column

def columnStep {Column : Type} (ops : ColumnOps Column) (s : Columns Column) :
    ColumnStatement → Option (Columns Column)
  | .create config iv =>
      if s.channel.isSome then none else some { s with channel := some (ops.encode iv config) }
  | .update patch iv => do
      let column ← s.channel
      let next ← updateColumn ops column patch iv
      some { s with channel := some next }
  | .remove => do
      let _ ← s.channel
      some { s with channel := some ops.tombstone }
  | .snapshot => do
      let column ← s.channel
      some { s with snapshots := s.snapshots ++ [column] }
  | .retire index => some { s with snapshots := s.snapshots.set index ops.tombstone }

def columnRun {Column : Type} (ops : ColumnOps Column) (statements : List ColumnStatement) :
    Option (Columns Column) :=
  statements.foldlM (columnStep ops) ⟨none, []⟩

theorem update_column_patched (row : ChannelRow) (patch : ChannelPatch) (iv : Bytes) :
    updateColumn sealedColumns row.encryptedConfig patch iv =
      if (patch.botToken.isSome || patch.chatId.isSome) && row.encryptedConfig.isTombstone then none
      else some (row.patched patch).encryptedConfig := by
  rw [updateColumn, ChannelRow.patched]
  cases column : row.encryptedConfig with
  | tombstone =>
      by_cases destination : (patch.botToken.isSome || patch.chatId.isSome) = true
      · rw [if_pos destination, destination]
        rfl
      · rw [if_neg destination, Bool.eq_false_iff.2 destination]
        simp
  | envelope config =>
      have kept : (patch.botToken.isSome || patch.chatId.isSome) = false →
          patch.destination config = config := by
        intro none
        rw [Bool.or_eq_false_iff, Option.isSome_eq_false_iff, Option.isSome_eq_false_iff,
          Option.isNone_iff_eq_none, Option.isNone_iff_eq_none] at none
        rw [ChannelPatch.destination, none.1, none.2]
        rfl
      by_cases destination : (patch.botToken.isSome || patch.chatId.isSome) = true
      · rw [if_pos destination, destination]
        by_cases changed : patch.destination config ≠ config
        · simp [sealedColumns, content, changed, Sealed.isTombstone]
        · simp [sealedColumns, content, not_not.1 changed, Sealed.isTombstone]
      · have same := kept (Bool.eq_false_iff.2 destination)
        rw [if_neg destination, Bool.eq_false_iff.2 destination]
        simp [same]

section Refinement

variable {vault : Vault}

abbrev Column (vault : Vault) : Sealed ChannelConfig → Bytes → Prop :=
  StoredAs vault.gcm vault.key (configText vault)

structure ColumnsAgree (vault : Vault) (tables : Columns (Sealed ChannelConfig))
    (bytes : Columns Bytes) : Prop where
  channel : Option.Rel (Column vault) tables.channel bytes.channel
  snapshots : List.Forall₂ (Column vault) tables.snapshots bytes.snapshots

theorem update_column_agrees (texts : vault.json.KeepsTexts) {column : Sealed ChannelConfig}
    {bytes : Bytes} (stored : Column vault column bytes) (patch : ChannelPatch) {iv : Bytes}
    (nonce : iv.length = 12) :
    Option.Rel (Column vault) (updateColumn sealedColumns column patch iv)
      (updateColumn (columnBytes vault) bytes patch iv) := by
  have read : (columnBytes vault).decode bytes = content column := decode_config_stored texts stored
  rw [updateColumn, updateColumn, read]
  by_cases destination : (patch.botToken.isSome || patch.chatId.isSome) = true
  · rw [if_pos destination, if_pos destination]
    cases column with
    | tombstone => exact .none
    | envelope config =>
        change Option.Rel _ (ite _ _ _) (ite _ _ _)
        by_cases changed : patch.destination config ≠ config
        · rw [if_pos changed, if_pos changed]
          exact .some (.envelope _ iv nonce)
        · rw [if_neg changed, if_neg changed]
          exact .some stored
  · rw [if_neg destination, if_neg destination]
    exact .some stored

theorem retire_agrees {tables : List (Sealed ChannelConfig)} {bytes : List Bytes}
    (agree : List.Forall₂ (Column vault) tables bytes) (index : Nat) :
    List.Forall₂ (Column vault) (tables.set index .tombstone)
      (bytes.set index secretTombstoneBytes) := by
  induction agree generalizing index with
  | nil => exact .nil
  | cons first rest induction =>
      cases index with
      | zero => exact .cons .tombstone rest
      | succ index => exact .cons first (induction index)

/-- A statement succeeds on bytes where it does in the tables, with the same columns. -/
theorem column_step_agrees (texts : vault.json.KeepsTexts) {tables : Columns (Sealed ChannelConfig)}
    {bytes : Columns Bytes} (agree : ColumnsAgree vault tables bytes) {statement : ColumnStatement}
    (drawn : statement.Drawn) :
    Option.Rel (ColumnsAgree vault) (columnStep sealedColumns tables statement)
      (columnStep (columnBytes vault) bytes statement) := by
  obtain ⟨tableColumn, tableCopies⟩ := tables
  obtain ⟨byteColumn, byteCopies⟩ := bytes
  obtain ⟨channel, snapshots⟩ := agree
  cases statement with
  | create config iv =>
      cases channel with
      | none => exact .some ⟨.some (.envelope config iv drawn), snapshots⟩
      | some => exact .none
  | update patch iv =>
      cases channel with
      | none => exact .none
      | some stored =>
          apply Lockstep.rel_bind (update_column_agrees texts stored patch drawn)
          intro next written agree
          exact .some ⟨.some agree, snapshots⟩
  | remove =>
      cases channel with
      | none => exact .none
      | some => exact .some ⟨.some .tombstone, snapshots⟩
  | snapshot =>
      cases channel with
      | none => exact .none
      | some stored => exact .some ⟨.some stored, List.rel_append snapshots (.cons stored .nil)⟩
  | retire index => exact .some ⟨channel, retire_agrees snapshots index⟩

/-- What the services read from the columns after a run is what the tables have: the worker a
destination for each outbox row whose secret is still there, the API the configuration of the
channel, and both the tombstones. -/
structure ColumnsRead (vault : Vault) (tables : Columns (Sealed ChannelConfig))
    (bytes : Columns Bytes) : Prop where
  destinations : bytes.snapshots.map (fun copy => (decryptJson vault copy).map telegramDestination) =
    tables.snapshots.map fun copy => (content copy).map Except.ok
  retired : bytes.snapshots.map isSecretTombstone = tables.snapshots.map Sealed.isTombstone
  configuration : bytes.channel.map (decodeConfig vault) = tables.channel.map content

theorem ColumnsAgree.read (texts : vault.json.KeepsTexts) {tables : Columns (Sealed ChannelConfig)}
    {bytes : Columns Bytes} (agree : ColumnsAgree vault tables bytes) :
    ColumnsRead vault tables bytes := by
  obtain ⟨tableColumn, tableCopies⟩ := tables
  obtain ⟨byteColumn, byteCopies⟩ := bytes
  obtain ⟨channel, snapshots⟩ := agree
  change Option.Rel _ tableColumn byteColumn at channel
  change List.Forall₂ _ tableCopies byteCopies at snapshots
  constructor
  · induction snapshots with
    | nil => rfl
    | cons first rest induction =>
        exact congrArg₂ List.cons (worker_destination texts first) induction
  · induction snapshots with
    | nil => rfl
    | cons first rest induction =>
        exact congrArg₂ List.cons (stored_is_tombstone first) induction
  · cases channel with
    | none => rfl
    | some stored => exact congrArg some (decode_config_stored texts stored)

/-- Every run of the statements does the same on bytes and in the tables. -/
theorem columns_refine (vault : Vault) (texts : vault.json.KeepsTexts)
    (statements : List ColumnStatement) (drawn : ∀ statement ∈ statements, statement.Drawn) :
    Option.Rel (ColumnsRead vault) (columnRun sealedColumns statements)
      (columnRun (columnBytes vault) statements) := by
  have start : ColumnsAgree vault ⟨none, []⟩ ⟨none, []⟩ := ⟨.none, .nil⟩
  have run : Option.Rel (ColumnsAgree vault) (columnRun sealedColumns statements)
      (columnRun (columnBytes vault) statements) := by
    apply Lockstep.run_related _ drawn start
    intro tables bytes statement agree nonce
    exact column_step_agrees texts agree nonce
  exact Lockstep.rel_weaken run fun _ _ agree => agree.read texts

end Refinement

def textMembers {Number : Type} (fields : List (String × JsonValue Number)) :
    List (String × String) :=
  fields.filterMap fun entry => entry.2.string?.map fun value => (entry.1, value)

def textObject {Number : Type} (members : List (String × String)) : JsonValue Number :=
  .object (members.map fun entry => (entry.1, .string entry.2))

theorem text_members {Number : Type} (members : List (String × String)) :
    textMembers (members.map fun entry => (entry.1, (.string entry.2 : JsonValue Number))) =
      members := by
  induction members with
  | nil => rfl
  | cons entry members induction =>
      rw [List.map_cons, textMembers, List.filterMap_cons]
      exact congrArg (List.cons entry) induction

def textJson : JsonLibrary wholeNumbers where
  stringify
    | .object fields => String.ofList (JsonText.object (textMembers fields))
    | _ => "null"
  parse units := (JsonText.readObject (unitChars units)).map textObject

theorem text_json_object (fields : List (String × JsonValue Nat)) :
    textJson.parse (codeUnits (textJson.stringify (.object fields))) =
      some (textObject (textMembers fields)) := by
  have parsed : ∀ units, textJson.parse units =
      (JsonText.readObject (unitChars units)).map textObject := fun _ => rfl
  have written : textJson.stringify (.object fields) =
      String.ofList (JsonText.object (textMembers fields)) := rfl
  rw [parsed, written, unit_chars_code_units, String.toList_ofList, JsonText.read_object]
  rfl

theorem text_json_keeps_texts : textJson.KeepsTexts where
  texts fields _ _ := (text_json_object _).trans
    (congrArg (fun members => some (textObject members)) (text_members fields))
  empty := rfl

/-- The byte that a key and a vector put over every byte of a text. -/
def mask (key : UInt8) (iv : Bytes) : UInt8 := iv.foldl (· * 31 + ·) key

def sumTag (mask : UInt8) (plain : Bytes) : Bytes := List.replicate 16 (plain.foldl (· + ·) mask)

theorem unmasked (mask : UInt8) (plain : Bytes) :
    (plain.map (· ^^^ mask)).map (· ^^^ mask) = plain := by
  rw [List.map_map]
  apply (List.map_congr_left _).trans plain.map_id
  intro byte _
  rw [Function.comp_apply, UInt8.xor_assoc, UInt8.xor_self, UInt8.xor_zero, id]

/-- A small cipher in place of AES: another key or vector gives another text and tag, and a
text whose tag does not fit is refused. -/
def maskGcm : AesGcm where
  Key := UInt8
  cipher key iv plain := (plain.map (· ^^^ mask key iv), sumTag (mask key iv) plain)
  decipher key iv tag ciphertext :=
    let plain := ciphertext.map (· ^^^ mask key iv)
    if tag = sumTag (mask key iv) plain then some plain else none
  cipher_length _ _ _ := List.length_map _
  tag_length _ _ _ := List.length_replicate
  decipher_cipher key iv plain _ := by
    dsimp only
    rw [unmasked, if_pos rfl]

def sampleVault : Vault where
  numbers := wholeNumbers
  json := textJson
  gcm := maskGcm
  key := (113 : UInt8)

def sampleIv : Bytes := List.replicate 12 7

def otherIv : Bytes := List.replicate 12 9

def firstConfig : ChannelConfig := ⟨"123456:abcdefghijklmnopqrstuvwxyz", "-100123"⟩

def movingChannel : List ColumnStatement :=
  [.create firstConfig sampleIv, .snapshot,
    .update ⟨none, none, some "@operators", none⟩ otherIv, .snapshot, .retire 0]

theorem columns_refine_sample :
    (columnRun sealedColumns movingChannel).map Columns.snapshots =
        some [.tombstone, .envelope { firstConfig with chatId := "@operators" }] ∧
      Option.Rel (ColumnsRead sampleVault) (columnRun sealedColumns movingChannel)
        (columnRun (columnBytes sampleVault) movingChannel) :=
  ⟨by decide, columns_refine sampleVault text_json_keeps_texts movingChannel
    (by simp [movingChannel, ColumnStatement.Drawn, sampleIv, otherIv])⟩

end LinkAlive.Delivery
