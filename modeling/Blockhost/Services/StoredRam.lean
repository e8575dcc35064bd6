import Blockhost.Api.ServerPlacement
import Blockhost.Library.Total

/-! The three accountings of a node's memory, and what each of them counts. -/

namespace Blockhost

open Library

/-- `_node_active_ram_mb` of the rebalancer. -/
def nodeActiveRamMb (settings : Settings) (db : Database) (now : Instant) (node : Node) : Int :=
  let activeServers :=
    db.servers.rows.filter (fun server =>
      server.nodeId = some node.id
      && (server.state = .running || server.state = .provisioning || server.state = .syncing))
  let activeDeployments :=
    db.appDeployments.rows.filter (fun deployment =>
      deployment.nodeId = some node.id
      && (deployment.state = .building || deployment.state = .running))
  let servers :=
    activeServers.foldl
      (fun total server =>
        total + (getEffectiveServerResourceLimits settings db now server.id).ramMb)
      0
  activeDeployments.foldl (fun total deployment => total + deployment.ramLimitMb) servers

/-- The memory of a node's servers in some states. -/
def serversRamMb (settings : Settings) (db : Database) (now : Instant)
    (counts : ServerState → Bool) (nodeId : Uuid)
    : Int :=
  total (fun server => server.nodeId = some nodeId && counts server.state)
    (fun server => (getEffectiveServerResourceLimits settings db now server.id).ramMb)
    db.servers.rows

/-- The memory of a node's app deployments in some states. -/
def deploymentsRamMb (db : Database) (counts : DeploymentState → Bool) (nodeId : Uuid) : Int :=
  total (fun deployment => deployment.nodeId = some nodeId && counts deployment.state)
    AppDeployment.ramLimitMb db.appDeployments.rows

section Accountings

variable (settings : Settings) (db : Database) (now : Instant)

theorem computeNodeAllocatedRamMb_eq (nodeId : Uuid)
    : computeNodeAllocatedRamMb settings db now nodeId
      = serversRamMb settings db now ServerState.reservesRam nodeId
        + deploymentsRamMb db DeploymentState.reservesRam nodeId := by
  rw [computeNodeAllocatedRamMb, foldl_filter_eq_total, foldl_filter_eq_total, Int.zero_add]
  rfl

theorem placementRamMb_eq (nodeId : Uuid)
    : placementRamMb settings db now nodeId
      = serversRamMb settings db now (fun state => state = .running || state = .provisioning)
          nodeId
        + deploymentsRamMb db DeploymentState.reservesRam nodeId := by
  rw [placementRamMb, foldl_filter_eq_total, foldl_filter_eq_total, Int.zero_add]
  rfl

theorem nodeActiveRamMb_eq (node : Node)
    : nodeActiveRamMb settings db now node
      = computeNodeAllocatedRamMb settings db now node.id := by
  have servers (state : ServerState)
      : (state = .running || state = .provisioning || state = .syncing) = state.reservesRam := by
    cases state <;> rfl
  have deployments (state : DeploymentState)
      : (state = .building || state = .running) = state.reservesRam := by
    cases state <;> rfl
  unfold nodeActiveRamMb computeNodeAllocatedRamMb
  simp only [servers, deployments]

theorem reserved_eq_placement_add_syncing (nodeId : Uuid)
    : computeNodeAllocatedRamMb settings db now nodeId
      = placementRamMb settings db now nodeId
        + serversRamMb settings db now (fun state => state = .syncing) nodeId := by
  have apart : ∀ server ∈ db.servers.rows,
      (server.nodeId = some nodeId
          && (server.state = .running || server.state = .provisioning)) = true
      → (server.nodeId = some nodeId && (server.state = .syncing : Bool)) = false := by
    intro server _ counted
    cases state : server.state <;> simp [state] at counted ⊢
  have states : serversRamMb settings db now ServerState.reservesRam nodeId
      = serversRamMb settings db now (fun state => state = .running || state = .provisioning)
          nodeId
        + serversRamMb settings db now (fun state => state = .syncing) nodeId := by
    unfold serversRamMb
    rw [← total_or apart]
    refine total_congr ?_
    intro server _
    cases state : server.state <;> simp [weight, state, ServerState.reservesRam]
  rw [computeNodeAllocatedRamMb_eq, placementRamMb_eq, states]
  omega

/-- The three accountings of a node agree exactly when its syncing servers have no memory
between them: the placement alone passes them over.
-/
theorem accountings_agree_iff (node : Node)
    : (placementRamMb settings db now node.id = computeNodeAllocatedRamMb settings db now node.id
        ∧ computeNodeAllocatedRamMb settings db now node.id
          = nodeActiveRamMb settings db now node)
      ↔ serversRamMb settings db now (fun state => state = .syncing) node.id = 0 := by
  rw [nodeActiveRamMb_eq, reserved_eq_placement_add_syncing]
  omega

end Accountings

def hostingDatabase (state : ServerState) : Database where
  servers :=
    ⟨[{ id := 0, nodeId := some 1, ownerId := 7, worldName := "lobby", state, lastActivity := 0 }],
      by simp⟩
  nodes :=
    ⟨[{ id := 1, name := "node", ipAddress := "10.0.0.1", status := .online,
        statusUpdatedAt := 0, totalRamMb := 4096, lastHeartbeat := some 0 }],
      by simp⟩
  plans :=
    ⟨[{ id := "pro", ramMb := 2048, cpuLimit := 100, storageMb := 10240, playerLimit := 25,
        price := 39900, durationDays := 30 }],
      by simp⟩
  subscriptions :=
    ⟨[{ id := 0, userId := 7, serverId := some 0, planId := "pro", startsAt := 0,
        expiresAt := days 30, createdAt := 0, updatedAt := 0 }],
      by simp⟩

/-- The placement offers a node as empty whose memory the other two accountings count as half
used.
-/
theorem syncing_server_passed_over
    : placementRamMb {} (hostingDatabase .syncing) 0 1 = 0
      ∧ computeNodeAllocatedRamMb {} (hostingDatabase .syncing) 0 1 = 2048
      ∧ ∀ node ∈ (hostingDatabase .syncing).nodes.rows,
        nodeActiveRamMb {} (hostingDatabase .syncing) 0 node = 2048 := by
  decide +kernel

end Blockhost

/-! The memory in use that a node's row stores, and the memory that its workloads reserve. With
fixed limits of the servers the two are compared while single servers are written.
-/

namespace Blockhost

open Library

/-- The stored memory of every node is the computed one. -/
def RamCurrent (settings : Settings) (now : Instant) (db : Database) : Prop :=
  ∀ node ∈ db.nodes.rows, node.usedRamMb = computeNodeAllocatedRamMb settings db now node.id

instance (settings : Settings) (now : Instant) (db : Database)
    : Decidable (RamCurrent settings now db) :=
  inferInstanceAs (Decidable (∀ node ∈ db.nodes.rows, _))

def serverShare (limit : Uuid → Int) (nodeId : Uuid) (server : Server) : Int :=
  weight (fun server => server.nodeId = some nodeId && server.state.reservesRam)
    (fun server => limit server.id) server

/-- The memory that the workloads of a node reserve. -/
def reservedRamMb (limit : Uuid → Int) (db : Database) (nodeId : Uuid) : Int :=
  total (fun server => server.nodeId = some nodeId && server.state.reservesRam)
      (fun server => limit server.id) db.servers.rows
    + deploymentsRamMb db DeploymentState.reservesRam nodeId

theorem computed_eq_reserved {settings : Settings} {db : Database} {now : Instant}
    {limit : Uuid → Int}
    (limits : ∀ serverId, requiredRamMb settings db now serverId = limit serverId)
    (nodeId : Uuid)
    : computeNodeAllocatedRamMb settings db now nodeId = reservedRamMb limit db nodeId := by
  rw [computeNodeAllocatedRamMb_eq, ← funext limits]
  rfl

section Shares

variable {limit : Uuid → Int} {nodeId : Uuid} {server : Server}

theorem serverShare_congr {other : Server} (id : other.id = server.id)
    (node : other.nodeId = server.nodeId)
    (reserves : other.state.reservesRam = server.state.reservesRam)
    : serverShare limit nodeId other = serverShare limit nodeId server := by
  simp only [serverShare, weight, id, node, reserves]

theorem serverShare_free (free : limit server.id = 0) : serverShare limit nodeId server = 0 := by
  simp only [serverShare, weight, free, ite_self]

theorem serverShare_idle (idle : server.state.reservesRam = false)
    : serverShare limit nodeId server = 0 :=
  weight_fail (by rw [idle, Bool.and_false])

theorem serverShare_away (away : server.nodeId ≠ some nodeId)
    : serverShare limit nodeId server = 0 :=
  weight_fail (by rw [decide_eq_false away, Bool.false_and])

theorem reservedRamMb_changeServer {db : Database} (stored : server ∈ db.servers.rows)
    (change : Change Server.id)
    : reservedRamMb limit (changeServer server.id change db) nodeId
      = reservedRamMb limit db nodeId - serverShare limit nodeId server
        + serverShare limit nodeId (change.apply server) := by
  have servers : total (fun server => server.nodeId = some nodeId && server.state.reservesRam)
        (fun server => limit server.id) (changeServer server.id change db).servers.rows
      = total (fun server => server.nodeId = some nodeId && server.state.reservesRam)
          (fun server => limit server.id) db.servers.rows
        - serverShare limit nodeId server + serverShare limit nodeId (change.apply server) :=
    db.servers.total_modify change stored
  unfold reservedRamMb
  change _ + deploymentsRamMb db _ _ = _
  omega

end Shares

/-- The stored memory is current but for one node, on the same subscriptions and plans. -/
structure Booked (limit : Uuid → Int) (stale : Option Uuid) (start db : Database) : Prop where
  subscriptions : db.subscriptions = start.subscriptions
  plans : db.plans = start.plans
  current
    : ∀ node ∈ db.nodes.rows, some node.id ≠ stale
      → node.usedRamMb = reservedRamMb limit db node.id

namespace Booked

variable {limit : Uuid → Int} {stale : Option Uuid} {start db : Database} {serverId : Uuid}

theorem limits (booked : Booked limit stale start db) {settings : Settings} {now : Instant}
    (fixed : ∀ serverId, requiredRamMb settings start now serverId = limit serverId)
    (serverId : Uuid)
    : requiredRamMb settings db now serverId = limit serverId := by
  rw [← fixed serverId]
  unfold requiredRamMb getEffectiveServerResourceLimits activeSubscriptionForServer
  rw [booked.subscriptions, booked.plans]

theorem ramCurrent (booked : Booked limit none start db) {settings : Settings} {now : Instant}
    (fixed : ∀ serverId, requiredRamMb settings start now serverId = limit serverId)
    : RamCurrent settings now db := by
  intro node stored
  rw [computed_eq_reserved (booked.limits fixed)]
  exact booked.current node stored (Option.some_ne_none _)

theorem ofCurrent {settings : Settings} {now : Instant}
    (current : RamCurrent settings now start)
    (fixed : ∀ serverId, requiredRamMb settings start now serverId = limit serverId)
    : Booked limit none start start where
  subscriptions := rfl
  plans := rfl
  current node stored _ := by
    rw [← computed_eq_reserved fixed]
    exact current node stored

theorem again (booked : Booked limit none start db) : Booked limit none db db :=
  ⟨rfl, rfl, booked.current⟩

theorem trans {middle : Database} (first : Booked limit none start middle)
    (second : Booked limit none middle db)
    : Booked limit none start db :=
  ⟨second.subscriptions.trans first.subscriptions, second.plans.trans first.plans, second.current⟩

theorem changeKept {change : Change Server.id} (booked : Booked limit stale start db)
    (kept : ∀ server, db.servers.get? serverId = some server → ∀ nodeId,
      serverShare limit nodeId (change.apply server) = serverShare limit nodeId server)
    : Booked limit stale start (changeServer serverId change db) := by
  refine ⟨booked.subscriptions, booked.plans, ?_⟩
  intro node stored fresh
  have same : reservedRamMb limit (changeServer serverId change db) node.id
      = reservedRamMb limit db node.id := by
    cases found : db.servers.get? serverId with
    | none =>
        unfold changeServer
        rw [Table.modify_absent (Table.get?_eq_none.mp found)]
    | some server =>
        obtain ⟨known, rfl⟩ := Table.get?_some found
        rw [reservedRamMb_changeServer known, kept server found]
        omega
  rw [same]
  exact booked.current node stored fresh

theorem changeFree {change : Change Server.id} (booked : Booked limit stale start db)
    (free : limit serverId = 0)
    : Booked limit stale start (changeServer serverId change db) := by
  refine booked.changeKept ?_
  intro server found nodeId
  obtain ⟨_, rfl⟩ := Table.get?_some found
  rw [serverShare_free free, serverShare_free ((change.kept server).symm ▸ free)]

theorem changeAt {change : Change Server.id} {home : Option Uuid}
    (booked : Booked limit none start db)
    (before : ∀ server, db.servers.get? serverId = some server → server.nodeId = home)
    (after : ∀ server, (change.apply server).nodeId = server.nodeId)
    : Booked limit home start (changeServer serverId change db) := by
  refine ⟨booked.subscriptions, booked.plans, ?_⟩
  intro node stored fresh
  have same : reservedRamMb limit (changeServer serverId change db) node.id
      = reservedRamMb limit db node.id := by
    cases found : db.servers.get? serverId with
    | none =>
        unfold changeServer
        rw [Table.modify_absent (Table.get?_eq_none.mp found)]
    | some server =>
        have here := before server found
        obtain ⟨known, rfl⟩ := Table.get?_some found
        have away : server.nodeId ≠ some node.id := by
          rw [here]
          exact fresh.symm
        rw [reservedRamMb_changeServer known, serverShare_away away,
          serverShare_away ((after server).symm ▸ away)]
        omega
  rw [same]
  exact booked.current node stored (Option.some_ne_none _)

theorem remove {nodeId : Option Uuid} (booked : Booked limit none start db)
    (on : (db.servers.get? serverId).bind Server.nodeId = nodeId)
    (collaborators : Table ServerCollaborator.id) (bans : Table Ban.id)
    : Booked limit nodeId start
        { db with
          servers := db.servers.filter (fun server => server.id ≠ serverId)
          serverCollaborators := collaborators
          bans } := by
  refine ⟨booked.subscriptions, booked.plans, ?_⟩
  intro node stored fresh
  rw [booked.current node stored (Option.some_ne_none _)]
  unfold reservedRamMb
  congr 1
  rw [Table.rows_filter, total_filter]
  refine total_congr ?_
  intro server known
  by_cases gone : server.id = serverId
  · have away : server.nodeId ≠ some node.id := by
      rw [← gone, Table.get?_of_mem known] at on
      rw [← on] at fresh
      exact fresh.symm
    simp [weight, gone, away]
  · simp [weight, gone]

theorem refresh {settings : Settings} {now : Instant} {nodeId : Uuid}
    (booked : Booked limit stale start db) (only : ∀ other, stale = some other → other = nodeId)
    (fixed : ∀ serverId, requiredRamMb settings start now serverId = limit serverId)
    : Booked limit none start (refreshNodeAllocatedRam settings now nodeId db) := by
  refine ⟨booked.subscriptions, booked.plans, ?_⟩
  intro node written _
  obtain ⟨row, stored, rfl⟩ := List.mem_map.mp written
  change _ = reservedRamMb limit db _
  unfold Change.at
  dsimp only
  split
  · rename_i same
    rw [same]
    exact computed_eq_reserved (booked.limits fixed) nodeId
  · rename_i other
    exact booked.current row stored (fun same => other (only row.id same.symm))

end Booked

end Blockhost
