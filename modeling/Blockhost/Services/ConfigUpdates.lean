import Blockhost.Api.ServerPlacement
import Blockhost.Library.Documents
import Blockhost.Library.Result

/-! The writers of a server's `mc_config`. The column holds one document; payments, the sweep of the
subscriptions, requests, migrations and starts each change a few of its keys, in transactions of
their own.
-/

namespace Blockhost

open Library

-- The document

inductive ConfigKey where
  | bedrockImage
  | bedrockVersion
  | serverName
  | gamemode
  | difficulty
  | maxPlayers
  | allowCheats
  | onlineMode
  | levelName
  | levelSeed
  | motd
  | serverDir
  | runtimeMode
  | templateVersion
  | executableName
  | billingPlanId
  | resourceLimits
  | lastMigratedAt
  | provisionError
deriving DecidableEq, Repr

inductive ConfigValue where
  | null
  | text (value : String)
  | number (value : Int)
  | flag (value : Bool)
  | instant (value : Instant)
  | limits (value : ResourceLimits)
deriving DecidableEq, Repr

/-- The stored `mc_config` of one server; a missing one is empty. -/
abbrev ConfigDocument := Document ConfigKey ConfigValue

abbrev ConfigEdit := Edit ConfigKey ConfigValue

-- Writers

structure ConfigFields where
  bedrockImage : Option String := none
  bedrockVersion : Option String := none
  serverName : Option String := none
  gamemode : Option String := none
  difficulty : Option String := none
  maxPlayers : Option Int := none
  allowCheats : Option Bool := none
  onlineMode : Option Bool := none
  levelName : Option String := none
  levelSeed : Option String := none
  motd : Option String := none
deriving DecidableEq, Repr

/-- `clamp_max_players` of a given number; without a paid plan there is no result. -/
def clampMaxPlayers (playerLimit requested : Int) : Option Int :=
  if playerLimit ≤ 0 then none else some (max 1 (min requested playerLimit))

def assign {Field : Type} (key : ConfigKey) (value : Field → ConfigValue) (field : Option Field)
    : ConfigEdit :=
  (field.map (fun present => (key, some (value present)))).toList

/-- A version after `_sanitize_version`; a blank one is stored as null. -/
def versionValue : Option String → ConfigValue
  | none => .null
  | some version => .text version

def checkVersion (sanitizeVersion : String → Except String (Option String))
    : Option String → Except HttpError (Option (Option String))
  | none => .ok none
  | some version =>
      match sanitizeVersion version with
      | .error detail => .error ⟨422, detail⟩
      | .ok sanitized => .ok (some sanitized)

def checkMaxPlayers (playerLimit : Int) : Option Int → Except HttpError (Option Int)
  | none => .ok none
  | some requested =>
      match clampMaxPlayers playerLimit requested with
      | none => .error ⟨402, "An active subscription is required to set max players."⟩
      | some capped => .ok (some capped)

/-- `update_server_config`: the assignments of a request whose version and player number pass. -/
def updateConfigEdit (sanitizeVersion : String → Except String (Option String))
    (playerLimit : Int) (config : ConfigFields)
    : Except HttpError ConfigEdit := do
  let bedrockVersion ← checkVersion sanitizeVersion config.bedrockVersion
  let maxPlayers ← checkMaxPlayers playerLimit config.maxPlayers
  return assign .bedrockImage .text config.bedrockImage
    ++ assign .bedrockVersion versionValue bedrockVersion
    ++ assign .serverName .text config.serverName
    ++ assign .gamemode .text config.gamemode
    ++ assign .difficulty .text config.difficulty
    ++ assign .maxPlayers .number maxPlayers
    ++ assign .allowCheats .flag config.allowCheats
    ++ assign .onlineMode .flag config.onlineMode
    ++ assign .levelName .text config.levelName
    ++ assign .levelSeed .text config.levelSeed
    ++ assign .motd .text config.motd

/-- The agent may start another version than the stored one, which is then stored. -/
def actualVersionEdit (actualVersion : Option String) (document : ConfigDocument) : ConfigEdit :=
  match document.lookup .templateVersion, actualVersion with
  | some (.text requested), some actual =>
      if requested ≠ "" && actual ≠ "" && actual ≠ requested then
        [(.templateVersion, some (.text actual))]
      else []
  | _, _ => []

/-- The writers, with what they have from their arguments, settings and other calls. -/
inductive ConfigWriter where
  | applyPlanLimitsToServer (plan : BillingPlan)
  | processSubscriptionExpirations
  | updateServerConfig (sanitizeVersion : String → Except String (Option String))
      (playerLimit : Int) (config : ConfigFields)
  | markServerMigrated (now : Instant)
  | prepareJavaServerForStart (serverDir : String)
  | prepareBedrockServerForStart (serverDir : String)
      (versionName : Option ConfigValue → String)
  | startServer (actualVersion : Option String)
  | reprovisionJavaServer (serverDir : String)
  | provisionJavaServer (failure : Option String)
  | switchJavaSoftware
  | switchBedrockSoftware (version : Option String)

/-- What a writer does to the document that it sees. A refused request does nothing. -/
def ConfigWriter.edit (writer : ConfigWriter) (document : ConfigDocument) : ConfigEdit :=
  match writer with
  | .applyPlanLimitsToServer plan =>
      [(.billingPlanId, some (.text plan.id)), (.resourceLimits, some (.limits plan.limits))]
  | .processSubscriptionExpirations => [(.resourceLimits, none), (.billingPlanId, none)]
  | .updateServerConfig sanitizeVersion playerLimit config =>
      match updateConfigEdit sanitizeVersion playerLimit config with
      | .error _ => []
      | .ok edit => edit
  | .markServerMigrated now => [(.lastMigratedAt, some (.instant now))]
  | .prepareJavaServerForStart serverDir =>
      [(.runtimeMode, some (.text "process")), (.serverDir, some (.text serverDir))]
  | .prepareBedrockServerForStart serverDir versionName =>
      [(.runtimeMode, some (.text "process")),
        (.templateVersion, some (.text (versionName (document.lookup .bedrockVersion)))),
        (.serverDir, some (.text serverDir))]
  | .startServer actualVersion => actualVersionEdit actualVersion document
  | .reprovisionJavaServer serverDir =>
      [(.serverDir, some (.text serverDir)), (.executableName, some (.text "server.jar")),
        (.provisionError, none)]
  | .provisionJavaServer none => [(.provisionError, none)]
  | .provisionJavaServer (some failure) => [(.provisionError, some (.text failure))]
  | .switchJavaSoftware => [(.provisionError, none)]
  | .switchBedrockSoftware version => [(.bedrockVersion, some (versionValue version))]

-- The typed configuration

def ConfigValue.text? : ConfigValue → Option String
  | .text value => some value
  | _ => none

variable {document : ConfigDocument} {server : Server}

theorem last_assign {Field : Type} (key : ConfigKey) (assigned : ConfigKey)
    (value : Field → ConfigValue) (field : Option Field)
    : Edit.last key (assign assigned value field)
      = if assigned = key then field.map (fun present => some (value present)) else none := by
  cases field with
  | none => simp [assign]
  | some present => rfl

-- Interleaved writers

/-- For all writers and every interleaving of their transactions: every key holds the last value
that a committed transaction has written to it, in each state of the run, exactly if each commit on
it writes a current copy.
-/
theorem mc_config_keeps_updates_iff {start finish : Shared ConfigKey ConfigValue}
    {accesses : List (Access ConfigWriter)}
    (run : Run (Shared.Step ConfigWriter.edit) start accesses finish)
    (untouched : start.committed = [])
    : (∀ earlier later middle, accesses = earlier ++ later
        → Run (Shared.Step ConfigWriter.edit) start earlier middle
        → Run (Shared.Step ConfigWriter.edit) middle later finish
        → middle.KeepsUpdates start.stored)
      ↔ Run (Shared.CurrentStep ConfigWriter.edit) start accesses finish :=
  Shared.run_keeps_updates_iff run untouched

def blankConfig : Shared ConfigKey ConfigValue where
  stored := ∅

def smallPlan : BillingPlan where
  id := "small"
  ramMb := 2048
  cpuLimit := 100
  storageMb := 5120
  playerLimit := 10
  price := 199
  durationDays := 30

/-- A request that sets the game mode. -/
def creativeMode : ConfigWriter :=
  .updateServerConfig (fun version => .ok (some version)) 10 { gamemode := some "creative" }

def paymentThenRequest : List (Access ConfigWriter) :=
  [.load 0, .change 0 (.applyPlanLimitsToServer smallPlan), .commit 0, .load 1,
    .change 1 creativeMode, .commit 1]

def paymentDuringRequest : List (Access ConfigWriter) :=
  [.load 1, .change 1 creativeMode, .load 0, .change 0 (.applyPlanLimitsToServer smallPlan),
    .commit 0, .commit 1]

/-- The request has loaded what the payment has stored, so that nothing is lost. -/
theorem payment_then_request_keeps
    : (paymentThenRequest.foldl (Shared.perform ConfigWriter.edit) blankConfig).KeepsUpdates
        blankConfig.stored := by
  have current : Run (Shared.CurrentStep ConfigWriter.edit) blankConfig paymentThenRequest
      (paymentThenRequest.foldl (Shared.perform ConfigWriter.edit) blankConfig) := by
    refine .next (.next (.next (.next (.next (.next .done ⟨⟨rfl⟩, nofun⟩) ⟨⟨rfl⟩, nofun⟩)
      ⟨⟨rfl⟩, ?_⟩) ⟨⟨rfl⟩, nofun⟩) ⟨⟨rfl⟩, nofun⟩) ⟨⟨rfl⟩, ?_⟩
    · intro transaction same key _
      cases same
      rfl
    · intro transaction same key _
      cases same
      rfl
  have run : Run (Shared.Step ConfigWriter.edit) blankConfig paymentThenRequest _ :=
    .of_foldl fun _ _ => ⟨rfl⟩
  exact (mc_config_keeps_updates_iff run rfl).mpr current paymentThenRequest [] _
    (List.append_nil _).symm run .done

def accessTransaction : Access ConfigWriter → Nat
  | .load transaction => transaction
  | .change transaction _ => transaction
  | .commit transaction => transaction
  | .discard transaction => transaction

/-- Two transactions that change different keys, once each, and commit. -/
structure Concurrent (accesses : List (Access ConfigWriter)) (first second : ConfigWriter)
    : Prop where
  ofFirst : accesses.filter (fun access => accessTransaction access = 0)
    = [.load 0, .change 0 first, .commit 0]
  ofSecond : accesses.filter (fun access => accessTransaction access = 1)
    = [.load 1, .change 1 second, .commit 1]
  differ : ∀ key document other, (first.edit document).last key = none
    ∨ (second.edit other).last key = none

/-- The request writes back what it loaded before the payment, and the limits are lost. -/
theorem payment_during_request_lost
    : ¬ ∀ start finish accesses first second, start.committed = []
      → start.copies = (fun _ => none) → Concurrent accesses first second
      → Run (Shared.Step ConfigWriter.edit) start accesses finish
      → finish.KeepsUpdates start.stored := by
  intro keeps
  have concurrent : Concurrent paymentDuringRequest
      (.applyPlanLimitsToServer smallPlan) creativeMode := by
    refine ⟨rfl, rfl, ?_⟩
    intro key document other
    cases key <;> first | exact .inl rfl | exact .inr rfl
  have plan := keeps blankConfig _ _ _ _ rfl rfl concurrent
    (.of_foldl fun _ _ => ⟨rfl⟩) .billingPlanId
  exact absurd plan (by decide +kernel)

end Blockhost
