import Blockhost.Api.ServerHandlers

/-! The migration of a server to another node through a snapshot: stop, backup, new node,
restore, start, and the removal of the old copy. The start may put the server on yet another
node, or back on the old one, whose copy is then removed.
-/

namespace Blockhost.ControlPlane

open Library

def backUpOldCopy (user : User) (serverId : Uuid) : Handler Node := do
  let server ← raising (← ask (.serverForUser user serverId "start_stop"))
  raising (← ask (.checkMigration server))
  match server.nodeId with
  | none => throw (.http ⟨400, "Server is not assigned to a node. Start it first."⟩)
  | some nodeId =>
      match ← ask (.loadNode nodeId) with
      | none => throw (.http ⟨400, "Server is not assigned to a node. Start it first."⟩)
      | some oldNode =>
          let _ ← ask (.call oldNode.id (.stop serverId))
          ask (.suspend serverId)
          if ← ask (.call oldNode.id (.backup serverId)) then pure oldNode
          else throw (.http ⟨502, "Failed to backup world on old node"⟩)

def restoreOnNewNode (serverId : Uuid) (oldNode : Node) : Handler Node := do
  let newNode ← raising (← ask (.moveToMigrationNode serverId oldNode.id))
  ask (.forgetRoute .api serverId)
  if ← ask (.call newNode.id (.restore serverId)) then pure newNode
  else do
    raising (← ask (.moveBack serverId oldNode))
    ask (.forgetRoute .api serverId)
    throw (.http ⟨502, "Failed to restore world on new node"⟩)

/-- Start the server wherever the general start puts it. -/
def startMigrated (site : Site) (serverId : Uuid) : Handler Unit :=
  tryCatch
    (do
      let server ← existing (← ask (.loadServer serverId))
      doStartServer site .api server
      ask (.markMigrated serverId))
    (fun failure =>
      match failure with
      | .http error => throw (.http error)
      | _ => throw (.http ⟨503, "Restore succeeded but failed to start on new node"⟩))

def removeOldCopy (serverId : Uuid) (oldNode : Node) : Handler Unit := do
  ask .recordMigration
  ask (.deleteSnapshot serverId)
  let _ ← ask (.call oldNode.id (.purge serverId))

/-- The migration, with the new node that it reports. -/
def migrateServer (site : Site) (user : User) (serverId : Uuid) : Handler Node := do
  let oldNode ← backUpOldCopy user serverId
  let newNode ← restoreOnNewNode serverId oldNode
  startMigrated site serverId
  removeOldCopy serverId oldNode
  pure newNode

variable {World : Type}

/-- The snapshot or the recorded node has the world. -/
def HasWorld (fleet : Fleet World) (serverId : Uuid) (world : World) : Prop :=
  fleet.snapshots serverId = some world
  ∨ ∃ nodeId, serverNode fleet.db serverId = some nodeId
    ∧ fleet.disks nodeId serverId = some world

/-- However a migration ends, the world is not lost; and when it succeeds, the server runs on
the recorded node, which has the world.
-/
def WorldKept (serverId : Uuid) (world : World)
    (outcome : Outcome (Outside World) (Fleet World) Raised Node)
    : Prop :=
  HasWorld outcome.world serverId world
  ∧ ∀ newNode, outcome.result = .ok newNode
    → ∃ nodeId, serverNode outcome.world.db serverId = some nodeId
      ∧ outcome.world.Live nodeId serverId
      ∧ outcome.world.disks nodeId serverId = some world

/-- The first part of a migration returns the old node. The numbers count actions. -/
structure OldCopySaved (site : Site) (user : User) (serverId : Uuid) (oldNode : Node)
    (fleet : Fleet World) (inputs : Stream' (Outside World))
    : Prop where
  permitted
    : ∃ server, getServerForUser fleet.db serverId user "start_stop" = .ok server
      ∧ checkMigration site.settings (inputs.get 1).now site.s3Missing fleet.migrationTimes
        server = .ok ()
      ∧ server.nodeId = some oldNode.id
  known : fleet.db.nodes.get? oldNode.id = some oldNode
  answered : (inputs.get 5).reply = .answered

def suspendedDatabase (serverId : Uuid) (db : Database) : Database :=
  changeServer serverId (setServerState .suspended) db

/-- The database as the start of a migrated server finds it. -/
def arrivedDatabase (serverId : Uuid) (newNode : Node) (db : Database) : Database :=
  changeServer serverId (moveServer newNode) (suspendedDatabase serverId db)

/-- A start takes the server off the recorded node and launches it on another one. The numbers
count the actions of the start.
-/
structure StartsOn (site : Site) (node : Node) (db : Database)
    (inputs : Stream' (Outside World)) (server moved : Server) (placed prepared : Database)
    : Prop where
  detached
    : checkStartNode site.settings (inputs.get 0).now server db
      = .ok (changeServer server.id detachServer db, .detached)
  selected
    : selectBestNode site.settings (changeServer server.id detachServer db) (inputs.get 1).now
        (requiredRamMb site.settings (changeServer server.id detachServer db)
          (inputs.get 1).now server.id)
      = some node
  assigned
    : assignBestNode site.settings (inputs.get 1).now (inputs.get 1).tests server
        (changeServer server.id detachServer db)
      = .ok (placed, true)
  reloaded : placed.servers.get? server.id = some moved
  prepares
    : prepareServerForStart site.settings site.serversDir (inputs.get 3).tests
        (inputs.get 3).succeeds moved placed
      = .ok prepared
  ready
    : ∃ row, checkLaunch site.settings (inputs.get 6).now (inputs.get 6).succeeds server.id
        (changeServer server.id
          { apply := fun row => { row with lastActivity := (inputs.get 4).now } } prepared)
      = .ok row
  answered : (inputs.get 8).reply = .answered

/-- Every step of a migration succeeds, and its start selects a node once more. -/
def StartSelects (site : Site) (user : User) (serverId : Uuid) (oldNode newNode node : Node)
    (fleet : Fleet World) (inputs : Stream' (Outside World))
    : Prop :=
  OldCopySaved site user serverId oldNode fleet inputs
  ∧ moveToMigrationNode site.settings (inputs.get 6).now serverId oldNode.id
      (suspendedDatabase serverId fleet.db)
    = .ok (arrivedDatabase serverId newNode fleet.db, newNode)
  ∧ (inputs.get 8).reply = .answered
  ∧ ∃ server moved placed prepared,
    (arrivedDatabase serverId newNode fleet.db).servers.get? serverId = some server
    ∧ StartsOn site node (arrivedDatabase serverId newNode fleet.db) (inputs.drop 10) server
      moved placed prepared

/-- A start that selects a node once more selects the new node, or the old one, whose copy is
then not removed after all, or a node that has the world already.
-/
def StartKeepsWorld (site : Site) (user : User) (serverId : Uuid) (world : World)
    (fleet : Fleet World) (inputs : Stream' (Outside World))
    : Prop :=
  ∀ oldNode newNode node,
    StartSelects site user serverId oldNode newNode node fleet inputs
    → node.id = newNode.id
      ∨ if node.id = oldNode.id then (inputs.get 23).reply.reaches = false
        else (fleet.disks node.id serverId).getD (inputs.get 18).freshWorld = world

end Blockhost.ControlPlane
