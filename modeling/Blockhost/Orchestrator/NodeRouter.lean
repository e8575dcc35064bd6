import Blockhost.Api.NodeRoster
import Blockhost.Library.ReadThrough
import Blockhost.Orchestrator.Fleet
import Blockhost.Services.RebalanceTransactions

/-! The node router, which sends the calls for a server to the agent of its node. What it looks up
in the database it keeps for some seconds, in each process of the control plane on its own.
-/

namespace Blockhost.Routing

open Library

/-- Where calls for a server go: the local runtime, or the agent at a base URL. -/
inductive Runtime where
  | systemd
  | agent (agentBaseUrl : String)
deriving DecidableEq, Repr

def getAgentRuntime (node : Node) : Runtime :=
  .agent ("http://" ++ node.ipAddress ++ ":" ++ toString node.agentPort)

/-- The runtime of the node that the committed row of a server names. -/
def runtimeOnRecord (db : Database) (serverId : Uuid) : Runtime :=
  match (db.servers.get? serverId).bind Server.nodeId with
  | none => .systemd
  | some nodeId =>
      match db.nodes.get? nodeId with
      | none => .systemd
      | some node => getAgentRuntime node

abbrev Routers := ReadThrough Database (Router × Uuid) Runtime

abbrev RouterEvent := CacheEvent Database (Router × Uuid)

def lookUp (db : Database) (key : Router × Uuid) : Runtime := runtimeOnRecord db key.2

/-- `_get_runtime`: where a call goes. -/
def getRuntime (router : Router) (serverId : Uuid) (now : Instant) (routers : Routers)
    : Runtime :=
  routers.answer lookUp (router, serverId) now

def invalidateServer (router : Router) (serverId : Uuid) : RouterEvent :=
  .drop (fun key => key = (router, serverId))

def invalidateNode (router : Router) : RouterEvent :=
  .drop (fun key => key.1 = router)

def call (router : Router) (serverId : Uuid) (now : Instant) : RouterEvent :=
  .look (router, serverId) now

/-- A transaction that raises is rolled back. -/
def commit (transaction : Database → Except Raised Database) : RouterEvent :=
  .change (fun db =>
    match transaction db with
    | .error _ => db
    | .ok next => next)

/-- What puts servers on nodes, gives a node an address, or takes a node out of use. -/
inductive Reassignment where
  | rescueOrphans (tests : PortTests) (onlineNode : Node)
  | migrateServer (tests : PortTests) (serverId : Uuid) (toNode : Node)
  | moveToMigrationNode (now : Instant) (serverId oldNode : Uuid)
  | moveBack (serverId : Uuid) (oldNode : Node)
  | shutDownIdleNode (tests : PortTests) (providerStops : Bool) (nodeId : Uuid)
      (allOnline : List Uuid)
  | suspendRunningServers (running : List Uuid)
  | checkStartNode (now : Instant) (server : Server)
  | assignBestNode (now : Instant) (tests : PortTests) (server : Server)
  | completeAdmission (now : Instant) (request : RegisterRequest) (node : Node)

/-- A failover leaves the servers of the node on it. -/
def Reassignment.transaction (settings : Settings)
    : Reassignment → Database → Except Raised Database
  | .rescueOrphans tests onlineNode, db => Blockhost.rescueOrphans settings tests onlineNode db
  | .migrateServer tests serverId toNode, db =>
      (reassignServer settings tests serverId toNode db).map Prod.fst
  | .moveToMigrationNode now serverId oldNode, db =>
      (Blockhost.moveToMigrationNode settings now serverId oldNode db).map Prod.fst
  | .moveBack serverId oldNode, db => Blockhost.moveBack serverId oldNode db
  | .shutDownIdleNode tests providerStops nodeId allOnline, db =>
      Blockhost.shutDownIdleNode settings tests providerStops nodeId allOnline db
  | .suspendRunningServers running, db =>
      .ok (running.foldl (fun db serverId => changeServer serverId suspendServer db) db)
  | .checkStartNode now server, db =>
      (Blockhost.checkStartNode settings now server db).map Prod.fst
  | .assignBestNode now tests server, db =>
      (Blockhost.assignBestNode settings now tests server db).map Prod.fst
  | .completeAdmission now request node, db =>
      .ok (Blockhost.completeAdmission settings now request node db)

/-- The server whose route a migration drops in its own process after the commit. The rescue, the
third phase and a registration drop nothing, and a start not before it launches the server.
-/
def Reassignment.migrated : Reassignment → Option Uuid
  | .migrateServer _ serverId _ | .moveToMigrationNode _ serverId _ | .moveBack serverId _ =>
      some serverId
  | _ => none

/-- The commit and the invalidations of a reassignment that goes through. A failover invalidates
before its commit, and nothing where no server runs.
-/
def Reassignment.events (settings : Settings) (reassignment : Reassignment) : List RouterEvent :=
  let committed := commit (reassignment.transaction settings)
  match reassignment with
  | .suspendRunningServers [] => []
  | .suspendRunningServers running =>
      running.map (invalidateServer .api) ++ [invalidateNode .api, committed]
  | other => committed :: other.migrated.toList.map (invalidateServer .api)

-- The law

def idleNode : Database where
  servers :=
    ⟨[{ id := 0, nodeId := some 1, ownerId := 7, worldName := "arena", state := .suspended,
        lastActivity := 0 }],
      by simp⟩
  nodes :=
    ⟨[{ id := 1, name := "idle", ipAddress := "10.0.0.1", status := .online,
        statusUpdatedAt := 0, provider := some "aws", providerInstanceId := some "i-1" },
      { id := 2, name := "busy", ipAddress := "10.0.0.2", status := .online,
        statusUpdatedAt := 0 }],
      by simp⟩

def migration : Reassignment := .moveToMigrationNode 0 0 1

end Blockhost.Routing
