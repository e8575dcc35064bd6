import Blockhost.Api.Schemas
import Blockhost.Config.Settings
import Mathlib.Data.List.Sort

/-! The bans of one server. The rows of ended bans stay in the table, and a unique constraint
spans the player and the flag `active`, whichever value the flag has.
-/

namespace Blockhost.Bans

open Library

-- Rows

structure BanRow where
  id : Uuid
  xuid : String
  playerName : Option String := none
  reason : Option String := none
  active : Bool := true
  bannedAt : Instant
  expiresAt : Option Instant := none
  unbannedAt : Option Instant := none
  createdByUserId : Option Uuid := none
  unbannedByUserId : Option Uuid := none
deriving DecidableEq, Repr

abbrev BanTable := Table BanRow.id

def UniqueActive (bans : BanTable) : Prop :=
  (bans.rows.map (fun ban => (ban.xuid, ban.active))).Nodup

instance (bans : BanTable) : Decidable (UniqueActive bans) :=
  inferInstanceAs (Decidable (List.Nodup _))

/-- A commit; what it refuses is lost. -/
def storeBans (changed : BanTable) : Except HttpError BanTable :=
  if UniqueActive changed then .ok changed else .error internalError

def BanRow.expired (now : Instant) (ban : BanRow) : Bool :=
  ban.expiresAt.any (fun expiresAt => expiresAt ≤ now)

/-- The same test in Python. SQLite gives an expiry back without a zone, and no time with one can
be compared with it.
-/
def BanRow.runOut (dialect : Dialect) (now : Instant) (ban : BanRow) : Except HttpError Bool :=
  match dialect, ban.expiresAt with
  | .sqlite, some _ => .error internalError
  | _, _ => .ok (ban.expired now)

-- Requests and answers

/-- A parsed `datetime`, with a time zone or without. -/
inductive ExpiryTime where
  | aware (time : Instant)
  | naive
deriving DecidableEq, Repr

structure BanCreateRequest where
  xuid : String
  playerName : Option String := none
  reason : Option String := none
  durationSeconds : Option Nat := none
  expiresAt : Option ExpiryTime := none
deriving DecidableEq, Repr

/-- A validated `BanOut`. -/
structure BanOut where
  ban : BanRow
deriving DecidableEq, Repr

/-- The fields of `BanOut` without a default. -/
def banOutRequired : List String := ["ban_id", "server_id", "xuid", "active", "banned_at"]

/-- The arguments with which `_ban_to_out` builds one. -/
def banToOutArguments : List String :=
  ["id", "server_id", "xuid", "player_name", "reason", "active", "banned_at", "expires_at",
    "unbanned_at", "created_by_user_id", "unbanned_by_user_id"]

/-- `_ban_to_out` -/
def banToOut (ban : BanRow) : Except HttpError BanOut :=
  if banOutRequired.all (fun field => banToOutArguments.contains field) then .ok ⟨ban⟩
  else .error internalError

@[simp] theorem banToOut_error (ban : BanRow) : banToOut ban = .error internalError := by
  unfold banToOut
  rw [if_neg (by decide)]

inductive BanReply where
  | one (out : BanOut)
  | many (items : List BanOut)
  | checked (ban : Option BanRow)
deriving DecidableEq, Repr

/-- What an operation answers, and the table that it leaves. -/
structure BanOutcome where
  answer : Except HttpError BanReply
  bans : BanTable

-- Operations

def activeBan (xuid : String) (bans : BanTable) : Option BanRow :=
  bans.rows.find? (fun ban => ban.xuid = xuid && ban.active)

def expireBan (unbannedAt : Option Instant) : Change BanRow.id where
  apply ban := { ban with active := false, unbannedAt }

def liftBan (now : Instant) (userId : Uuid) : Change BanRow.id where
  apply ban :=
    { ban with active := false, unbannedAt := some now, unbannedByUserId := some userId }

/-- `_resolve_active_ban` -/
def resolveActiveBan (dialect : Dialect) (xuid : String) (now : Instant) (bans : BanTable)
    : Except HttpError (Option BanRow × BanTable) :=
  match activeBan xuid bans with
  | none => .ok (none, bans)
  | some ban =>
      match ban.runOut dialect now with
      | .error refused => .error refused
      | .ok false => .ok (some ban, bans)
      | .ok true =>
          match storeBans (bans.modify ban.id (expireBan ban.expiresAt)) with
          | .error refused => .error refused
          | .ok changed => .ok (none, changed)

/-- `_expire_expired_bans` -/
def expireExpiredBans (now : Instant) (bans : BanTable) : Except HttpError BanTable :=
  storeBans (bans.update ((expireBan (some now)).when (fun ban =>
    ban.active && ban.expired now)))

def newestFirst (bans : List BanRow) : List BanRow :=
  bans.insertionSort (fun first second => second.bannedAt ≤ first.bannedAt)

def listed (bans : BanTable) (rows : List BanRow) : BanOutcome :=
  ⟨((newestFirst rows).mapM banToOut).map .many, bans⟩

/-- `list_bans` -/
def listBans (now : Instant) (bans : BanTable) : BanOutcome :=
  match expireExpiredBans now bans with
  | .error refused => ⟨.error refused, bans⟩
  | .ok changed => listed changed (changed.rows.filter BanRow.active)

/-- `list_ban_history` -/
def listBanHistory (now : Instant) (bans : BanTable) : BanOutcome :=
  match expireExpiredBans now bans with
  | .error refused => ⟨.error refused, bans⟩
  | .ok changed => listed changed changed.rows

/-- `check_ban` -/
def checkBan (dialect : Dialect) (xuid : String) (now : Instant) (bans : BanTable)
    : BanOutcome :=
  match resolveActiveBan dialect xuid now bans with
  | .error refused => ⟨.error refused, bans⟩
  | .ok (ban, changed) => ⟨.ok (.checked ban), changed⟩

/-- The expiry of a request; times with and without a zone cannot be compared. -/
def requestedExpiry (request : BanCreateRequest) (now : Instant)
    : Except HttpError (Option Instant) :=
  match request.expiresAt, request.durationSeconds with
  | some .naive, _ => .error internalError
  | some (.aware time), _ =>
      if time ≤ now then .error ⟨400, "Expiration must be in the future"⟩ else .ok (some time)
  | none, some duration => .ok (some (now + seconds duration))
  | none, none => .ok none

def newBan (request : BanCreateRequest) (userId banId : Uuid) (now : Instant)
    (expiresAt : Option Instant)
    : BanRow where
  id := banId
  xuid := request.xuid
  playerName := request.playerName
  reason := request.reason
  bannedAt := now
  expiresAt := expiresAt
  createdByUserId := some userId

def addBan (ban : BanRow) (bans : BanTable) : Except HttpError BanTable :=
  (bans.insert? ban).elim (.error internalError) storeBans

/-- `create_ban`. The player is kicked after the commit, which raises nothing; `banId` is the
id that the row gets.
-/
def createBan (request : BanCreateRequest) (userId banId : Uuid) (now : Instant)
    (bans : BanTable)
    : BanOutcome :=
  match requestedExpiry request now with
  | .error refused => ⟨.error refused, bans⟩
  | .ok expiresAt =>
      if (activeBan request.xuid bans).isSome then
        ⟨.error ⟨409, "Player is already banned"⟩, bans⟩
      else
        match addBan (newBan request userId banId now expiresAt) bans with
        | .error refused => ⟨.error refused, bans⟩
        | .ok changed =>
            ⟨(banToOut (newBan request userId banId now expiresAt)).map .one, changed⟩

/-- `delete_ban`, with a parsed id. -/
def deleteBan (userId banId : Uuid) (now : Instant) (bans : BanTable) : BanOutcome :=
  match bans.get? banId with
  | none => ⟨.error ⟨404, "Ban not found"⟩, bans⟩
  | some ban =>
      if ban.active then
        match storeBans (bans.modify banId (liftBan now userId)) with
        | .error refused => ⟨.error refused, bans⟩
        | .ok changed => ⟨(banToOut ban).map .one, changed⟩
      else ⟨(banToOut ban).map .one, bans⟩

/-- A request of a user who may see the console of the server. -/
inductive BanOperation where
  | create (request : BanCreateRequest) (userId banId : Uuid)
  | list
  | history
  | check (xuid : String)
  | lift (userId banId : Uuid)
deriving DecidableEq, Repr

def perform (dialect : Dialect) (now : Instant) (operation : BanOperation) (bans : BanTable)
    : BanOutcome :=
  match operation with
  | .create request userId banId => createBan request userId banId now bans
  | .list => listBans now bans
  | .history => listBanHistory now bans
  | .check xuid => checkBan dialect xuid now bans
  | .lift userId banId => deleteBan userId banId now bans

end Blockhost.Bans
