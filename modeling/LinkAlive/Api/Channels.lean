import LinkAlive.Api.Monitors

/-!
# The channel service

`apps/api/src/notifications/notification-channels.service.ts`: create, update and
remove. An update that disables a channel and the removal retire its rows in the same
way; every other update leaves the outbox alone.
-/

namespace LinkAlive

open Relational

set_option autoImplicit false

structure ChannelPatch where
  displayName : Option String
  botToken : Option String
  chatId : Option String
  enabled : Option Bool
deriving DecidableEq, Repr

inductive ChannelRequest
  | update (patch : ChannelPatch)
  | remove

inductive ChannelChange
  | update (patch : ChannelPatch) (found : List (OutboxKey × Nat))
  | remove (found : List (OutboxKey × Nat))

/-- A transaction of the service; it holds the lock of the channel. -/
structure ChannelTx where
  id : ChannelId
  now : Time
  change : ChannelChange

def newChannelRow (displayName : String) (config : ChannelConfig) : ChannelRow where
  displayName := displayName
  encryptedConfig := .envelope config
  verifiedAt := none
  enabled := true
  deletedAt := none

def ofChannel (channelId : ChannelId) (key : OutboxKey) (_ : OutboxRow) : Bool :=
  key.channelId = channelId

def ChannelPatch.disables (patch : ChannelPatch) : Bool := patch.enabled = some false

/-- The reads of an operation; `none` where it is rejected. A destination patch needs a
readable configuration. -/
def channelChange (db : Database) (id : ChannelId) (request : ChannelRequest) :
    Option ChannelChange := do
  let current ← db.channels.get id
  if current.deletedAt.isSome then none
  else
    match request with
    | .update patch =>
        if (patch.botToken.isSome || patch.chatId.isSome) && current.encryptedConfig.isTombstone then
          none
        else
          some (.update patch (if patch.disables then openAttempts db (ofChannel id) else []))
    | .remove => some (.remove (openAttempts db (ofChannel id)))

def ChannelPatch.destination (patch : ChannelPatch) (config : ChannelConfig) : ChannelConfig where
  botToken := patch.botToken.getD config.botToken
  chatId := patch.chatId.getD config.chatId

def ChannelRow.patched (row : ChannelRow) (patch : ChannelPatch) : ChannelRow :=
  let named :=
    { row with
      displayName := patch.displayName.getD row.displayName
      enabled := patch.enabled.getD row.enabled }
  match row.encryptedConfig with
  | .tombstone => named
  | .envelope config =>
      if patch.destination config ≠ config then
        { named with encryptedConfig := .envelope (patch.destination config), verifiedAt := none }
      else named

def ChannelRow.removed (row : ChannelRow) (now : Time) : ChannelRow :=
  { row with
    enabled := false
    encryptedConfig := .tombstone
    deletedAt := some now }

/-- The open attempts that the operation gives up; `none` where it does not retire the
channel. -/
def ChannelChange.retires : ChannelChange → Option (List (OutboxKey × Nat))
  | .update patch found => if patch.disables then some found else none
  | .remove found => some found

def ChannelChange.found (change : ChannelChange) : List (OutboxKey × Nat) :=
  change.retires.getD []

def ChannelChange.abandonError : ChannelChange → String
  | .update .. => "채널 비활성화로 발송 추적이 종료되어 전달 여부를 확인할 수 없습니다."
  | .remove _ => "채널 삭제로 발송 추적이 종료되어 전달 여부를 확인할 수 없습니다."

def ChannelTx.channelWrite (tx : ChannelTx) (row : ChannelRow) : ChannelRow :=
  match tx.change with
  | .update patch _ => row.patched patch
  | .remove _ => row.removed tx.now

/-- The statements about deliveries, bindings and rows of a channel that is disabled or
removed. -/
def ChannelTx.retireWrite (tx : ChannelTx) (db : Database) : Database :=
  match tx.change.retires with
  | none => db
  | some found =>
      { db with
        deliveries := abandonDeliveries db.deliveries found tx.now tx.change.abandonError
        bindings := db.bindings.deleteWhere fun key _ => key.2 = tx.id
        outbox := retireRows db.outbox (ofChannel tx.id) tx.now }

def channelCommit (db : Database) (tx : ChannelTx) : Database :=
  { tx.retireWrite db with channels := db.channels.updateKey tx.id tx.channelWrite }

end LinkAlive
