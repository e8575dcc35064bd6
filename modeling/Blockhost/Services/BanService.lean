import Blockhost.Api.ServersBans
import Blockhost.Library.Suppression
import Blockhost.Library.Texts

/-! The ban service listens to the log lines of the servers. A line that names a player who joins
or spawns leads to a lookup of the player's ban, unless the player was looked up, on any server,
within the last ten seconds.
-/

namespace Blockhost.Bans

open Library

-- Log lines

/-- The letter of the pattern that a letter matches when case is ignored. -/
def foldLetter (letter : Char) : Char :=
  if 'A' ≤ letter ∧ letter ≤ 'Z' then Char.ofNat (letter.toNat + 32)
  else if letter = 'İ' ∨ letter = 'ı' then 'i'
  else if letter = 'ſ' then 's'
  else letter

/-- What follows a word of small letters at the start of a text. -/
def afterWord (word text : List Char) : Option (List Char) :=
  if (text.take word.length).map foldLetter = word then some (text.drop word.length) else none

/-- A match of `_PLAYER_CONNECTED_RE`, with the stripped first group. -/
structure PlayerMatch where
  spawned : Bool
  playerName : String
  xuid : Option String
deriving DecidableEq, Repr

/-- The second group; `isDecimal` tells what `\d` matches. -/
def xuidAfter (isDecimal : Char → Bool) (text : List Char) : Option String :=
  match text with
  | ',' :: rest =>
      (afterWord "xuid:".toList (rest.dropWhile isSpace)).bind (fun rest =>
        let digits := (rest.dropWhile isSpace).takeWhile isDecimal
        if digits = [] then none else some (String.ofList digits))
  | _ => none

def matchPlayer (isDecimal : Char → Bool) (text : List Char) : Option PlayerMatch := do
  let rest ← afterWord "player ".toList text
  let (spawned, rest) ←
    ((afterWord "connected:".toList rest).map (Prod.mk false)).or
      ((afterWord "spawned:".toList rest).map (Prod.mk true))
  let name := rest.takeWhile (fun letter => letter ≠ ',')
  if name = [] then none
  else
    some
      { spawned
        playerName := String.ofList (strip name)
        xuid := xuidAfter isDecimal (rest.dropWhile (fun letter => letter ≠ ',')) }

/-- `_PLAYER_CONNECTED_RE.search`: the first place that matches. -/
def searchPlayer (isDecimal : Char → Bool) : List Char → Option PlayerMatch
  | [] => matchPlayer isDecimal []
  | letter :: rest =>
      (matchPlayer isDecimal (letter :: rest)).or (searchPlayer isDecimal rest)

-- The listener

def ttlSeconds : Int := seconds 10

structure Kick where
  server : Uuid
  playerName : String
  reason : Option String
deriving DecidableEq, Repr

def Kick.command (kick : Kick) : String :=
  "kick \"" ++ kick.playerName ++ "\" §cBanned: "
    ++ (kick.reason.filter (fun reason => reason ≠ "")).getD "You are banned."

/-- The bans of all servers, the players that were looked up, and who is online. -/
structure Enforcement where
  bans : Uuid → BanTable
  recentlyProcessed : Windows String := fun _ => none
  online : Uuid → String → Bool := fun _ _ => false

/-- `_check_and_enforce_ban`; a comparison that raises and a commit that fails are logged. -/
def checkAndEnforceBan (dialect : Dialect) (server : Uuid) (xuid playerName : String)
    (now : Instant) (bans : BanTable)
    : BanTable × List Kick :=
  match activeBan xuid bans with
  | none => (bans, [])
  | some ban =>
      match ban.runOut dialect now with
      | .error _ => (bans, [])
      | .ok false => (bans, [{ server, playerName, reason := ban.reason }])
      | .ok true =>
          ((storeBans (bans.modify ban.id (expireBan ban.expiresAt))).toOption.getD bans, [])

def listener (dialect : Dialect) (server : Uuid) (found : Option PlayerMatch) (now : Instant)
    (state : Enforcement)
    : Enforcement × List Kick :=
  match found with
  | some { playerName, xuid := some xuid, .. } =>
      let recentlyProcessed := Windows.use ttlSeconds state.recentlyProcessed (xuid, now)
      if Windows.admits ttlSeconds now xuid state.recentlyProcessed then
        let checked := checkAndEnforceBan dialect server xuid playerName now (state.bans server)
        ({ state with
            recentlyProcessed, bans := Function.update state.bans server checked.1 },
          checked.2)
      else ({ state with recentlyProcessed }, [])
  | _ => (state, [])

-- Events

inductive BanEvent where
  | changeBans (server : Uuid) (bans : BanTable)
  | offline (server : Uuid) (xuid : String)
  | log (server : Uuid) (line : String) (now : Instant)

def connect (server : Uuid) (found : Option PlayerMatch) (online : Uuid → String → Bool)
    : Uuid → String → Bool :=
  match found with
  | some { spawned := false, xuid := some xuid, .. } =>
      Function.update online server (Function.update (online server) xuid true)
  | _ => online

def banStep (dialect : Dialect) (isDecimal : Char → Bool) (state : Enforcement) (event : BanEvent)
    : Enforcement × List Kick :=
  match event with
  | .changeBans server bans => ({ state with bans := Function.update state.bans server bans }, [])
  | .offline server xuid =>
      ({ state with
          online := Function.update state.online server
            (Function.update (state.online server) xuid false) },
        [])
  | .log server line now =>
      let found := searchPlayer isDecimal line.toList
      let listened := listener dialect server found now state
      ({ listened.1 with online := connect server found listened.1.online }, listened.2)

end Blockhost.Bans
