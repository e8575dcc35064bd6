import Blockhost.Orchestrator.ControlPlaneRuns
import Blockhost.Orchestrator.FleetHandlers

/-! The operations that start, stop, move and delete single servers, each run alone from a fleet
with its inputs. The auto-sleeper's sweep of app deployments is left out.
-/

namespace Blockhost.ControlPlane

open Library

variable {World : Type}

-- The auto-sleeper

def idleTimeoutMinutes : Int := 15

def idleServers (now : Instant) (db : Database) : List Server :=
  db.servers.rows.filter (fun server =>
    server.state = .running && server.playersOnline = 0
    && server.lastActivity < now - seconds (idleTimeoutMinutes * 60))

/-- `stop_server` of the lifecycle without the commit of its caller. -/
def haltServerProcess (router : Router) (serverId : Uuid) : Handler Unit := do
  match ← ask (.route router serverId) with
  | none => pure ()
  | some nodeId =>
      if ← ask (.call nodeId (.stop serverId)) then pure () else throw .exception

/-- An idle server is stopped. The session holds its new state back until the commit, so the
memory of the node is computed before; a failure is logged.
-/
def sleepServer (serverId : Uuid) : Handler Unit :=
  tryCatch
    (do
      haltServerProcess .api serverId
      let server ← existing (← ask (.loadServer serverId))
      match server.nodeId with
      | none => ask (.suspend serverId)
      | some nodeId => do
          ask (.refreshRam nodeId)
          ask (.suspend serverId))
    (fun _ => pure ())

def sleepServers : List Uuid → Handler Unit
  | [] => pure ()
  | serverId :: rest => do
      sleepServer serverId
      sleepServers rest

/-- `_auto_sleeper_cycle` on the servers that it finds idle. -/
def autoSleeperCycle (now : Instant) (db : Database) : Handler Unit :=
  sleepServers ((idleServers now db).map Server.id)

-- Deletion

/-- A server that the database takes for running is stopped; a failure is logged. -/
def stopBeforeDeletion (server : Server) : Handler Unit :=
  if server.state = .running then
    tryCatch (haltServerProcess .api server.id) (fun _ => pure ())
  else pure ()

/-- The agent of a known node removes the files of a server; a failure is logged. -/
def purgeServerData (serverId : Uuid) : Option Uuid → Handler Unit
  | none => pure ()
  | some nodeId => do
      match ← ask (.loadNode nodeId) with
      | none => pure ()
      | some node =>
          if node.ipAddress = "" then pure ()
          else do
            let _ ← ask (.call node.id (.purge serverId))
            pure ()

/-- `delete_server` up to its commit, with the node of the server. -/
def prepareDeletion (user : User) (serverId : Uuid) : Handler (Option Uuid) := do
  let server ← raising (← ask (.serverForUser user serverId "start_stop"))
  stopBeforeDeletion server
  purgeServerData serverId server.nodeId
  pure server.nodeId

/-- The row goes with its collaborators and bans; then the memory of its node is refreshed. -/
def removeServer (settings : Settings) (now : Instant) (serverId : Uuid) (nodeId : Option Uuid)
    (db : Database)
    : Database :=
  let removed :=
    { db with
      servers := db.servers.filter (fun server => server.id ≠ serverId)
      serverCollaborators :=
        db.serverCollaborators.filter (fun collaborator => collaborator.serverId ≠ serverId)
      bans := db.bans.filter (fun ban => ban.serverId ≠ serverId) }
  match nodeId with
  | none => removed
  | some nodeId => refreshNodeAllocatedRam settings now nodeId removed

-- Operations

inductive FleetOperation where
  | start (user : User) (serverId : Uuid)
  | stop (user : User) (serverId : Uuid)
  | toggle (user : User) (serverId : Uuid)
  | autoSleep
  | rebalance (choice : MigrationChoice)
  | migrate (user : User) (serverId : Uuid)
  | delete (user : User) (serverId : Uuid) (deletable : Bool)

structure OperationRun (World : Type) where
  operation : FleetOperation
  fleet : Fleet World
  inputs : Stream' (Outside World)

namespace OperationRun

def begins (event : OperationRun World) : Instant := event.inputs.head.now

/-- What an operation leaves when it runs alone, whether it returns or raises. -/
def result (site : Site) (event : OperationRun World) : Fleet World :=
  let after {Result : Type} (handler : Handler Result) :=
    handler.run site event.inputs event.fleet
  match event.operation with
  | .start user serverId => (after (startServer site user serverId)).world
  | .stop user serverId => (after (stopServer user serverId)).world
  | .toggle user serverId => (after (toggleServer site user serverId)).world
  | .autoSleep => (after (autoSleeperCycle event.begins event.fleet.db)).world
  | .rebalance choice => (after (rebalanceServer site choice)).world
  | .migrate user serverId => (after (migrateServer site user serverId)).world
  | .delete user serverId deletable =>
      let prepared := after (prepareDeletion user serverId)
      match prepared.result with
      | .error _ => prepared.world
      | .ok nodeId =>
          if deletable then
            prepared.world.withDb
              (removeServer site.settings event.begins serverId nodeId prepared.world.db)
          else prepared.world

end OperationRun

end Blockhost.ControlPlane
