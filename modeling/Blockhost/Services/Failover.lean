import Blockhost.Api.NodeRoster
import Blockhost.Api.NodesSession

/-! The watchdog's sweep of nodes without heartbeats, and of nodes whose start takes too long. -/

namespace Blockhost

open Library

def staleNodes (now : Instant) (db : Database) : List Node :=
  db.nodes.rows.filter (fun node =>
    node.status = .online
    && node.lastHeartbeat.any (fun last => last < now - seconds heartbeatStaleSeconds))

/-- Nodes that have been starting for more than five minutes. -/
def stuckNodes (now : Instant) (db : Database) : List Node :=
  db.nodes.rows.filter (fun node =>
    node.status = .starting && node.statusUpdatedAt < now - seconds (5 * 60))

def takeOffline (now : Instant) : Change Node.id where
  apply node := { node with status := .offline, statusUpdatedAt := now }

/-- Each stale node is taken offline, unless its failover raises. -/
def failOver (now : Instant) : List Node → Database → Except String Database
  | [], db => .ok db
  | node :: rest, db =>
      let marked := changeNode node.id (takeOffline now) db
      match suspendRunningServersOnNode marked node.id with
      | .error error => .error error
      | .ok _ => failOver now rest marked

def markStaleNodesOffline (now : Instant) (db : Database) : Except String Database :=
  match failOver now (staleNodes now db) db with
  | .error error => .error error
  | .ok failed =>
      .ok ((stuckNodes now db).foldl (fun db node =>
        changeNode node.id (takeOffline now) db) failed)

/-- A sweep that raises is logged and commits nothing. -/
def watchNodes (now : Instant) (db : Database) : Database :=
  match markStaleNodesOffline now db with
  | .error _ => db
  | .ok next => next

section Roster

variable {nodeId : Uuid} {now : Instant} {db next : Database}

theorem lacks_takeOffline {changed : Uuid} (lacks : Lacks nodeId .online (roster db))
    : Lacks nodeId .online (roster (changeNode changed (takeOffline now) db)) := by
  have entered : roster (changeNode changed (takeOffline now) db)
      = enterStatus changed .offline (roster db) := roster_entered (fun _ => rfl) rfl
  rw [entered]
  exact lacks_enterStatus lacks (fun _ => by simp)

/-- By induction on the stale nodes. -/
theorem lacks_failOver (nodes : List Node) (failed : failOver now nodes db = .ok next)
    (lacks : Lacks nodeId .online (roster db))
    : Lacks nodeId .online (roster next) := by
  induction nodes generalizing db with
  | nil =>
      cases failed
      exact lacks
  | cons node rest ih =>
      unfold failOver at failed
      dsimp only at failed
      split at failed
      · cases failed
      · exact ih failed (lacks_takeOffline lacks)

theorem lacks_watchNodes (now : Instant) (lacks : Lacks nodeId .online (roster db))
    : Lacks nodeId .online (roster (watchNodes now db)) := by
  have freed (nodes : List Node) {failed : Database}
      (lacks : Lacks nodeId .online (roster failed))
      : Lacks nodeId .online
          (roster (nodes.foldl (fun db node =>
            changeNode node.id (takeOffline now) db) failed)) := by
    induction nodes generalizing failed with
    | nil => exact lacks
    | cons node rest ih => exact ih (lacks_takeOffline lacks)
  unfold watchNodes markStaleNodesOffline
  cases failed : failOver now (staleNodes now db) db with
  | error error => exact lacks
  | ok next => exact freed _ (lacks_failOver _ failed lacks)

end Roster

end Blockhost

/-! What the failover of a node leaves there. It gives up before it stops anything when the node
has running servers, and ends at once when it has none, so a node that is marked offline keeps
every workload it had.
-/

namespace Blockhost

open Library

variable {db next : Database} {node : Node} {now : Instant}

/-- No workload of a node reserves memory there. -/
structure Released (db : Database) (nodeId : Uuid) : Prop where
  servers
    : ∀ server ∈ db.servers.rows, server.nodeId = some nodeId
      → server.state.reservesRam = false
  deployments
    : ∀ deployment ∈ db.appDeployments.rows, deployment.nodeId = some nodeId
      → deployment.state.reservesRam = false

/-- A node is marked offline, by a sweep of the watchdog or by a disconnect. -/
inductive MarkedOffline (db : Database) (node : Node) : Database → Prop where
  | stale {now : Instant} {next : Database} (member : node ∈ staleNodes now db)
      (swept : markStaleNodesOffline now db = .ok next)
      : MarkedOffline db node next
  | stuck {now : Instant} {next : Database} (member : node ∈ stuckNodes now db)
      (swept : markStaleNodesOffline now db = .ok next)
      : MarkedOffline db node next
  | disconnect {nodeName : Json} {suspended : List Uuid}
      (named : nodeNamed db nodeName = .ok (some node))
      (failedOver : suspendRunningServersOnNode db node.id = .ok suspended)
      : MarkedOffline db node (cleanUpSession nodeName db)

-- Sweeps

/-- A database with other node rows only. -/
structure SameWorkloads (db next : Database) : Prop where
  servers : next.servers = db.servers
  deployments : next.appDeployments = db.appDeployments

theorem SameWorkloads.trans {middle : Database} (first : SameWorkloads db middle)
    (second : SameWorkloads middle next)
    : SameWorkloads db next :=
  ⟨second.servers.trans first.servers, second.deployments.trans first.deployments⟩

theorem sameWorkloads_changeNode (nodeId : Uuid) (change : Change Node.id) (db : Database)
    : SameWorkloads db (changeNode nodeId change db) :=
  ⟨rfl, rfl⟩

/-- By induction on the stale nodes. -/
theorem failOver_workloads {nodes : List Node} (failed : failOver now nodes db = .ok next)
    : SameWorkloads db next := by
  induction nodes generalizing db with
  | nil =>
      cases failed
      exact ⟨rfl, rfl⟩
  | cons node rest ih =>
      unfold failOver at failed
      dsimp only at failed
      split at failed
      · cases failed
      · exact (sameWorkloads_changeNode _ _ db).trans (ih failed)

/-- By induction on the stuck nodes. -/
theorem stuck_workloads (nodes : List Node) (db : Database)
    : SameWorkloads db
        (nodes.foldl (fun db node => changeNode node.id (takeOffline now) db) db) := by
  induction nodes generalizing db with
  | nil => exact ⟨rfl, rfl⟩
  | cons node rest ih => exact (sameWorkloads_changeNode _ _ db).trans (ih _)

theorem sweep_workloads (swept : markStaleNodesOffline now db = .ok next)
    : SameWorkloads db next := by
  unfold markStaleNodesOffline at swept
  split at swept
  · cases swept
  · rename_i failed
    cases swept
    exact (failOver_workloads failed).trans (stuck_workloads _ _)

-- Marked nodes

theorem markedOffline_workloads (marked : MarkedOffline db node next)
    : SameWorkloads db next := by
  cases marked with
  | stale member swept => exact sweep_workloads swept
  | stuck member swept => exact sweep_workloads swept
  | disconnect named failedOver =>
      simp only [cleanUpSession, named, failedOver]
      exact sameWorkloads_changeNode _ _ db

/-- A node that is marked offline is free of workloads exactly when it was so before. -/
theorem failover_releases_iff (marked : MarkedOffline db node next)
    : Released next node.id ↔ Released db node.id := by
  have same := markedOffline_workloads marked
  constructor
  · rintro ⟨servers, deployments⟩
    rw [same.servers] at servers
    rw [same.deployments] at deployments
    exact ⟨servers, deployments⟩
  · rintro ⟨servers, deployments⟩
    rw [← same.servers] at servers
    rw [← same.deployments] at deployments
    exact ⟨servers, deployments⟩

private def silentNode : Node where
  id := 1
  name := "node-1"
  ipAddress := "10.0.0.1"
  status := .online
  statusUpdatedAt := 0
  approved := true
  lastHeartbeat := some 0

private def strandedDeployment : AppDeployment where
  id := 5
  ownerId := 2
  nodeId := some 1
  state := .running
  volumePath := ""

private def deployedDatabase (deployments : Table AppDeployment.id) : Database where
  nodes := ⟨[silentNode], by decide⟩
  appDeployments := deployments

private def idleDatabase : Database :=
  deployedDatabase ⟨[{ strandedDeployment with state := .stopped }], by decide⟩

private def strandedDatabase : Database := deployedDatabase ⟨[strandedDeployment], by decide⟩

/-- A node with nothing but a stopped deployment stays free of workloads. -/
theorem idle_node_stays_released
    : MarkedOffline idleDatabase silentNode (watchNodes (seconds 1000) idleDatabase)
      ∧ Released (watchNodes (seconds 1000) idleDatabase) silentNode.id := by
  have swept : markStaleNodesOffline (seconds 1000) idleDatabase
      = .ok (watchNodes (seconds 1000) idleDatabase) := rfl
  have marked : MarkedOffline idleDatabase silentNode (watchNodes (seconds 1000) idleDatabase) :=
    .stale (by decide) swept
  have released : Released idleDatabase silentNode.id := ⟨by decide, by decide⟩
  exact ⟨marked, (failover_releases_iff marked).mpr released⟩

/-- A node that hosts only a running deployment is marked offline with it. -/
theorem deployment_stays_on_offline_node
    : MarkedOffline strandedDatabase silentNode (watchNodes (seconds 1000) strandedDatabase)
      ∧ ¬ Released (watchNodes (seconds 1000) strandedDatabase) silentNode.id := by
  have swept : markStaleNodesOffline (seconds 1000) strandedDatabase
      = .ok (watchNodes (seconds 1000) strandedDatabase) := rfl
  refine ⟨.stale (by decide) swept, ?_⟩
  rintro ⟨_, deployments⟩
  exact absurd (deployments strandedDeployment (by decide) rfl) (by decide)

end Blockhost
