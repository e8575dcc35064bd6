import Blockhost.Api.HeartbeatStates
import Blockhost.Library.Run
import Blockhost.Library.Session
import Mathlib.Logic.Function.Basic

/-! Heartbeats that arrive late. An agent sends what runs on its node and the health of its
deployments; meanwhile the control plane starts servers and containers. A heartbeat may suspend a
server that was launched after it was sent, and the health that an earlier container had may become
the state of a new one. Clock values tell which came first; the code has none of them.
-/

namespace Blockhost

open Library

-- Agents and their heartbeats

/-- An entry of `_deployment_health`, with the time at which it was recorded. -/
structure HealthEntry where
  status : String := "unknown"
  restartCount : Int := 0
  lastHealthyAt : Option String := none
  consecutiveFailures : Int := 0
  recordedAt : Nat := 0

/-- An agent: the units that are active, and the health of its deployments. -/
structure NodeAgent where
  running : List String := []
  health : List (String × HealthEntry) := []

/-- What an agent measures for a heartbeat. -/
structure Measures where
  totalRamMb : Int := 0
  usedRamMb : Int := 0
  cpuUsagePercent : Rat := 0
  cpuCores : Int := 1
  players : String → Int := fun _ => 0

/-- A heartbeat on its way, with the time at which it was taken. -/
structure Heartbeat where
  nodeId : Uuid
  measures : Measures
  running : List String
  health : List (String × HealthEntry)
  takenAt : Nat

def HealthEntry.fields (entry : HealthEntry) : Fields :=
  [("status", .text entry.status), ("restart_count", .int entry.restartCount),
    ("last_healthy_at", (entry.lastHealthyAt.map Json.text).getD .null),
    ("consecutive_failures", .int entry.consecutiveFailures)]

def Heartbeat.runningServers (heartbeat : Heartbeat) : Fields :=
  heartbeat.running.map (fun name => (name, .int (heartbeat.measures.players name)))

def Heartbeat.deploymentHealth (heartbeat : Heartbeat) : Fields :=
  heartbeat.health.map (fun entry => (entry.1, .object entry.2.fields))

/-- The statistics that the control plane reads. -/
def Heartbeat.stats (heartbeat : Heartbeat) : Fields :=
  [("total_ram_mb", .int heartbeat.measures.totalRamMb),
    ("used_ram_mb", .int heartbeat.measures.usedRamMb),
    ("cpu_usage_percent", .float heartbeat.measures.cpuUsagePercent),
    ("cpu_cores", .int heartbeat.measures.cpuCores),
    ("running_servers", .object heartbeat.runningServers),
    ("deployment_health", .object heartbeat.deploymentHealth)]

def Heartbeat.message (heartbeat : Heartbeat) : Json :=
  .object [("type", .text "heartbeat"), ("data", .object heartbeat.stats)]

def Heartbeat.listed (heartbeat : Heartbeat) : List Uuid :=
  reportedServers heartbeat.runningServers

def entriesOf (deploymentId : Uuid) (health : List (String × HealthEntry)) : List HealthEntry :=
  (health.filter (fun entry => parseUuid entry.1 = some deploymentId)).map Prod.snd

-- Starts on the control plane

/-- The database, the agents and the heartbeats on their way. `starting` counts the starts of a
server that are under way and have not launched it.
-/
structure HeartbeatSite where
  db : Database
  agents : Uuid → NodeAgent := fun _ => {}
  inFlight : List Heartbeat := []
  starting : Uuid → Nat := fun _ => 0
  time : Nat := 0
  launchedAt : Uuid → Nat := fun _ => 0
  startedAt : Uuid → Nat := fun _ => 0

inductive HeartbeatEvent where
  | snapshot (nodeId : Uuid) (measures : Measures) (systemctl : Bool)
  | deliver (index : Nat) (now : Instant)
  | lose (index : Nat)
  | beginStart (serverId : Uuid)
  | assignNode (serverId nodeId : Uuid) (vmIpv4 : String) (vmPort : Int)
  | launch (serverId : Uuid)
  | commitRunning (serverId : Uuid) (loaded : ServerState)
  | abandonStart (serverId : Uuid)
  | exit (nodeId : Uuid) (name : String)
  | startContainer (deploymentId : Uuid)
  | recordHealth (nodeId : Uuid) (name : String) (entry : HealthEntry)
  | stopContainer (nodeId : Uuid) (name : String)
  | commit (db : Database)

def HeartbeatSite.withAgent (site : HeartbeatSite) (nodeId : Uuid) (agent : NodeAgent)
    : HeartbeatSite :=
  { site with agents := Function.update site.agents nodeId agent }

/-- The heartbeat of a node at this time. Without `systemctl` no unit is found. -/
def HeartbeatSite.heartbeat (site : HeartbeatSite) (nodeId : Uuid) (measures : Measures)
    (systemctl : Bool)
    : Heartbeat where
  nodeId
  measures
  running := if systemctl then (site.agents nodeId).running else []
  health := (site.agents nodeId).health
  takenAt := site.time

/-- The assignment of `_do_start_server`. -/
def assignServer (nodeId : Uuid) (vmIpv4 : String) (vmPort : Int) : Change Server.id where
  apply server :=
    { server with
      nodeId := some nodeId, vmIpv4 := some vmIpv4, vmPort, state := .provisioning }

/-- The last commit of a start, whose session has loaded a state. -/
def finishStart (loaded : ServerState) : Change Server.id where
  apply server := { server with state := written (some loaded) .running server.state }

def performHeartbeatEvent (functions : SessionFunctions) (settings : Settings)
    (site : HeartbeatSite)
    : HeartbeatEvent → HeartbeatSite
  | .snapshot nodeId measures systemctl =>
      { site with inFlight := site.inFlight ++ [site.heartbeat nodeId measures systemctl] }
  | .deliver index now =>
      match site.inFlight[index]? with
      | none => site
      | some heartbeat =>
          { site with
            db :=
              afterMessage functions settings heartbeat.nodeId (now, some heartbeat.message)
                site.db
            inFlight := site.inFlight.eraseIdx index }
  | .lose index => { site with inFlight := site.inFlight.eraseIdx index }
  | .beginStart serverId =>
      { site with
        starting := Function.update site.starting serverId (site.starting serverId + 1) }
  | .assignNode serverId nodeId vmIpv4 vmPort =>
      if 0 < site.starting serverId then
        { site with
          db :=
            { site.db with
              servers := site.db.servers.modify serverId (assignServer nodeId vmIpv4 vmPort) } }
      else site
  | .launch serverId =>
      match (site.db.servers.get? serverId).bind Server.nodeId with
      | none => site
      | some nodeId =>
          let agent := site.agents nodeId
          if 0 < site.starting serverId then
            { site.withAgent nodeId { agent with running := agent.running ++ [uuidText serverId] }
              with
              starting := Function.update site.starting serverId (site.starting serverId - 1)
              time := site.time + 1
              launchedAt := Function.update site.launchedAt serverId (site.time + 1) }
          else site
  | .commitRunning serverId loaded =>
      { site with
        db := { site.db with servers := site.db.servers.modify serverId (finishStart loaded) } }
  | .abandonStart serverId =>
      { site with
        starting := Function.update site.starting serverId (site.starting serverId - 1) }
  | .exit nodeId name =>
      let agent := site.agents nodeId
      site.withAgent nodeId { agent with running := agent.running.filter (· ≠ name) }
  | .startContainer deploymentId =>
      { site with
        time := site.time + 1
        startedAt := Function.update site.startedAt deploymentId (site.time + 1) }
  | .recordHealth nodeId name entry =>
      let agent := site.agents nodeId
      site.withAgent nodeId
        { agent with
          health :=
            agent.health.filter (fun other => other.1 ≠ name)
              ++ [(name, { entry with recordedAt := site.time })] }
  | .stopContainer nodeId name =>
      let agent := site.agents nodeId
      site.withAgent nodeId
        { agent with health := agent.health.filter (fun other => other.1 ≠ name) }
  | .commit db => { site with db }

structure HeartbeatStep (functions : SessionFunctions) (settings : Settings)
    (before : HeartbeatSite) (event : HeartbeatEvent) (after : HeartbeatSite)
    : Prop where
  performed : after = performHeartbeatEvent functions settings before event

-- Stale heartbeats

/-- A heartbeat was taken before the launch of a server: the latest one, or the one that a start
under way has still to come to.
-/
def HeartbeatSite.Stale (site : HeartbeatSite) (heartbeat : Heartbeat) (serverId : Uuid) : Prop :=
  0 < site.starting serverId ∨ heartbeat.takenAt < site.launchedAt serverId

/-- An entry was recorded before the current container of its deployment was started. -/
def HeartbeatSite.Outdated (site : HeartbeatSite) (deploymentId : Uuid) (entry : HealthEntry)
    : Prop :=
  entry.recordedAt < site.startedAt deploymentId

def ServerState.started (state : ServerState) : Prop := state = .provisioning ∨ state = .running

/-- A heartbeat undoes no start: it suspends no server that it is too old for, and its outdated
entries change the state of no deployment.
-/
structure UndoesNoStart (before : HeartbeatSite) (heartbeat : Heartbeat) (after : Database)
    : Prop where
  servers
    : ∀ server ∈ before.db.servers.rows, server.state.started → before.Stale heartbeat server.id
      → ∀ next, after.servers.get? server.id = some next → next.state ≠ .suspended
  deployments
    : ∀ deployment ∈ before.db.appDeployments.rows,
      (∀ entry ∈ entriesOf deployment.id heartbeat.health,
        before.Outdated deployment.id entry)
      → placedState after deployment.id = placedState before.db deployment.id

/-- The agent of a node, or a heartbeat of it on its way, has an entry about a deployment. -/
def HeartbeatSite.Reports (site : HeartbeatSite) (nodeId deploymentId : Uuid)
    (entry : HealthEntry)
    : Prop :=
  entry ∈ entriesOf deploymentId (site.agents nodeId).health
  ∨ ∃ heartbeat ∈ site.inFlight, heartbeat.nodeId = nodeId
    ∧ entry ∈ entriesOf deploymentId heartbeat.health

def HealthEntry.Troubled (entry : HealthEntry) : Prop := troubled entry.fields = true

/-- What keeps old news from harm. Each commit that makes a server provisioning or running finds
only heartbeats of its node that list the server or were taken after its launch; no heartbeat that
misses the server is taken between such a commit and the launch; and a container is started only
when its node has no report of trouble about the deployment.
-/
def Timely (site : HeartbeatSite) : HeartbeatEvent → Prop
  | .snapshot nodeId measures systemctl =>
      ∀ server ∈ site.db.servers.rows, server.nodeId = some nodeId → server.state.started
        → 0 < site.starting server.id
        → server.id ∈ (site.heartbeat nodeId measures systemctl).listed
  | .beginStart serverId =>
      ∀ server ∈ site.db.servers.rows, server.id = serverId → server.state.started
        → ∀ heartbeat ∈ site.inFlight, server.nodeId = some heartbeat.nodeId
        → server.id ∈ heartbeat.listed
  | .assignNode serverId nodeId _ _ =>
      ∀ heartbeat ∈ site.inFlight, heartbeat.nodeId = nodeId → serverId ∈ heartbeat.listed
  | .commitRunning serverId _ =>
      ∀ server ∈ site.db.servers.rows, server.id = serverId
        → ∀ heartbeat ∈ site.inFlight, server.nodeId = some heartbeat.nodeId
        → site.Stale heartbeat serverId → serverId ∈ heartbeat.listed
  | .startContainer deploymentId =>
      ∀ deployment ∈ site.db.appDeployments.rows, deployment.id = deploymentId
        → ∀ nodeId, deployment.nodeId = some nodeId
        → ∀ entry, site.Reports nodeId deploymentId entry → ¬ entry.Troubled
  | .commit db =>
      (∀ server ∈ db.servers.rows, server.state.started
        → (∃ before ∈ site.db.servers.rows,
            before.id = server.id ∧ before.nodeId = server.nodeId ∧ before.state.started)
          ∨ ∀ heartbeat ∈ site.inFlight, server.nodeId = some heartbeat.nodeId
            → site.Stale heartbeat server.id → server.id ∈ heartbeat.listed)
      ∧ ∀ deployment ∈ db.appDeployments.rows,
        (∃ before ∈ site.db.appDeployments.rows,
          before.id = deployment.id ∧ before.nodeId = deployment.nodeId)
        ∨ ∀ nodeId, deployment.nodeId = some nodeId
          → ∀ entry, site.Reports nodeId deployment.id entry
          → site.Outdated deployment.id entry → ¬ entry.Troubled
  | _ => True

structure TimelyStep (functions : SessionFunctions) (settings : Settings)
    (before : HeartbeatSite) (event : HeartbeatEvent) (after : HeartbeatSite)
    : Prop where
  step : HeartbeatStep functions settings before event after
  timely : Timely before event

-- What timely steps keep

/-- A stale heartbeat on its way lists the servers of its node that have started. -/
structure ServersListed (site : HeartbeatSite) : Prop where
  clock : ∀ serverId, site.launchedAt serverId ≤ site.time
  listed
    : ∀ server ∈ site.db.servers.rows, server.state.started → ∀ heartbeat ∈ site.inFlight,
      server.nodeId = some heartbeat.nodeId → site.Stale heartbeat server.id
      → server.id ∈ heartbeat.listed

/-- An outdated entry of a deployment's node is no report of trouble. -/
structure EntriesCalm (site : HeartbeatSite) : Prop where
  clock : ∀ deploymentId, site.startedAt deploymentId ≤ site.time
  calm
    : ∀ deployment ∈ site.db.appDeployments.rows, ∀ nodeId, deployment.nodeId = some nodeId
      → ∀ entry, site.Reports nodeId deployment.id entry
      → site.Outdated deployment.id entry → ¬ entry.Troubled

theorem ServersListed.shrink {site next : HeartbeatSite} (listed : ServersListed site)
    (clock : ∀ serverId, next.launchedAt serverId ≤ next.time)
    (servers
      : ∀ server ∈ next.db.servers.rows, server.state.started → ∃ before ∈ site.db.servers.rows,
        before.id = server.id ∧ before.nodeId = server.nodeId ∧ before.state.started)
    (fewer : ∀ heartbeat ∈ next.inFlight, heartbeat ∈ site.inFlight)
    (stale
      : ∀ heartbeat ∈ next.inFlight, ∀ serverId, next.Stale heartbeat serverId
        → site.Stale heartbeat serverId)
    : ServersListed next := by
  refine ⟨clock, ?_⟩
  intro server stored started heartbeat sent here late
  obtain ⟨before, known, sameId, sameNode, active⟩ := servers server stored started
  rw [← sameId]
  refine listed.listed before known active heartbeat (fewer heartbeat sent) ?_ ?_
  · rw [sameNode, here]
  · rw [sameId]
    exact stale heartbeat sent server.id late

theorem EntriesCalm.shrink {site next : HeartbeatSite} (calm : EntriesCalm site)
    (clock : ∀ deploymentId, next.startedAt deploymentId ≤ next.time)
    (deployments
      : ∀ deployment ∈ next.db.appDeployments.rows, ∃ before ∈ site.db.appDeployments.rows,
        before.id = deployment.id ∧ before.nodeId = deployment.nodeId)
    (entries
      : ∀ nodeId deploymentId entry, next.Reports nodeId deploymentId entry
        → next.Outdated deploymentId entry
        → site.Reports nodeId deploymentId entry ∧ site.Outdated deploymentId entry)
    : EntriesCalm next := by
  refine ⟨clock, ?_⟩
  intro deployment stored nodeId placed entry reported outdated
  obtain ⟨before, known, sameId, sameNode⟩ := deployments deployment stored
  obtain ⟨reported, outdated⟩ := entries nodeId deployment.id entry reported outdated
  rw [← sameId] at reported outdated
  exact calm.calm before known nodeId (sameNode.trans placed) entry reported outdated

-- What a delivered heartbeat does

variable {functions : SessionFunctions} {settings : Settings}

theorem Heartbeat.runningReports_stats (heartbeat : Heartbeat)
    : runningReports heartbeat.stats = some heartbeat.runningServers := by
  have found : (heartbeat.stats.lookup? "running_servers").getD (.object [])
      = .object heartbeat.runningServers := by
    simp [Heartbeat.stats, Fields.lookup?]
  unfold runningReports
  rw [found]
  cases heartbeat.runningServers <;> rfl

theorem Heartbeat.entries_stats (heartbeat : Heartbeat)
    : entries heartbeat.stats "deployment_health" = .ok heartbeat.deploymentHealth := by
  have found : (heartbeat.stats.lookup? "deployment_health").getD (.object [])
      = .object heartbeat.deploymentHealth := by
    simp [Heartbeat.stats, Fields.lookup?]
  unfold entries
  rw [found]

theorem Heartbeat.heartbeatStats_message {heartbeat : Heartbeat} {nodeId : Uuid} {db : Database}
    {stats : Fields} (found : heartbeatStats nodeId (some heartbeat.message) db = some stats)
    : stats = heartbeat.stats := by
  cases known : db.nodes.get? nodeId with
  | none => simp [heartbeatStats, Heartbeat.message, Json.fields?, Fields.lookup?, known] at found
  | some node =>
      simp [heartbeatStats, Heartbeat.message, Json.fields?, Fields.lookup?, known] at found
      exact found.2.symm

theorem Heartbeat.delivered (functions : SessionFunctions) (settings : Settings)
    (heartbeat : Heartbeat) (now : Instant) (db : Database)
    : afterMessage functions settings heartbeat.nodeId (now, some heartbeat.message) db = db
      ∨ applyHeartbeat functions settings now heartbeat.nodeId heartbeat.stats db
        = .ok (afterMessage functions settings heartbeat.nodeId (now, some heartbeat.message)
            db) := by
  rcases afterMessage_cases functions settings heartbeat.nodeId (now, some heartbeat.message) db
    with ⟨stats, next, found, applied, after⟩ | ⟨_, after⟩
  · rw [after, ← Heartbeat.heartbeatStats_message found]
    exact .inr applied
  · exact .inl after

theorem Heartbeat.delivered_server (heartbeat : Heartbeat) (now : Instant) (db : Database)
    {server : Server}
    (stored : server ∈ (afterMessage functions settings heartbeat.nodeId
      (now, some heartbeat.message) db).servers.rows)
    : ∃ before ∈ db.servers.rows, before.id = server.id ∧ before.nodeId = server.nodeId
      ∧ (server.state = before.state
        ∨ server.state = .suspended ∧ before.nodeId = some heartbeat.nodeId
          ∧ before.id ∉ heartbeat.listed) := by
  rcases heartbeat.delivered functions settings now db with same | applied
  · rw [same] at stored
    exact ⟨server, stored, rfl, rfl, .inl rfl⟩
  · obtain ⟨running, read, change, rewritten, states⟩ := applyHeartbeat_serverStates applied
    cases heartbeat.runningReports_stats.symm.trans read
    rw [rewritten] at stored
    obtain ⟨before, known, rfl⟩ := List.mem_map.mp stored
    obtain ⟨sameNode, state⟩ := states before
    refine ⟨before, known, (change.kept before).symm, sameNode.symm, ?_⟩
    rw [state]
    unfold reconciledState
    split
    · rename_i missed
      simp only [Bool.and_eq_true, decide_eq_true_eq] at missed
      exact .inr ⟨rfl, missed.1.1, missed.2⟩
    · exact .inl rfl

theorem Heartbeat.reportsTrouble {heartbeat : Heartbeat} {deploymentId : Uuid}
    {report : String × Json} (member : report ∈ heartbeat.deploymentHealth)
    (trouble : ReportsTrouble deploymentId report)
    : ∃ entry ∈ entriesOf deploymentId heartbeat.health, entry.Troubled := by
  obtain ⟨named, known, rfl⟩ := List.mem_map.mp member
  obtain ⟨parsed, health, read, troubled⟩ := trouble
  cases read
  refine ⟨named.2, List.mem_map.mpr ⟨named, ?_, rfl⟩, troubled⟩
  exact List.mem_filter.mpr ⟨known, decide_eq_true parsed⟩

theorem Heartbeat.delivered_deployment (heartbeat : Heartbeat) (now : Instant) (db : Database)
    {deployment : AppDeployment} (stored : deployment ∈ db.appDeployments.rows)
    (calm : deployment.nodeId = some heartbeat.nodeId
      → ∀ entry ∈ entriesOf deployment.id heartbeat.health, ¬ entry.Troubled)
    : placedState (afterMessage functions settings heartbeat.nodeId
        (now, some heartbeat.message) db) deployment.id
      = placedState db deployment.id := by
  rcases heartbeat.delivered functions settings now db with same | applied
  · rw [same]
  · by_cases own : deployment.nodeId = some heartbeat.nodeId
    · refine applyHeartbeat_deploymentState applied heartbeat.entries_stats ?_
      intro report member trouble
      obtain ⟨entry, about, troubled⟩ := Heartbeat.reportsTrouble member trouble
      exact calm own entry about troubled
    · exact applyHeartbeat_foreignState applied stored own

theorem Heartbeat.delivered_node (heartbeat : Heartbeat) (now : Instant) (db : Database)
    {deployment : AppDeployment}
    (stored : deployment ∈ (afterMessage functions settings heartbeat.nodeId
      (now, some heartbeat.message) db).appDeployments.rows)
    : ∃ before ∈ db.appDeployments.rows, before.id = deployment.id
      ∧ before.nodeId = deployment.nodeId := by
  rcases heartbeat.delivered functions settings now db with same | applied
  · rw [same] at stored
    exact ⟨deployment, stored, rfl, rfl⟩
  · have node := applyHeartbeat_deploymentNode applied deployment.id
    rw [Table.get?_of_mem stored, Option.map_some] at node
    obtain ⟨before, found, sameNode⟩ := Option.map_eq_some_iff.mp node.symm
    obtain ⟨known, sameId⟩ := Table.get?_some found
    exact ⟨before, known, sameId, sameNode⟩

-- Timely runs

theorem TimelyStep.keepsListed {before after : HeartbeatSite} {event : HeartbeatEvent}
    (taken : TimelyStep functions settings before event after) (listed : ServersListed before)
    : ServersListed after := by
  obtain ⟨⟨rfl⟩, timely⟩ := taken
  have same {next : HeartbeatSite} (sameServers : next.db.servers = before.db.servers)
      : ∀ server ∈ next.db.servers.rows, server.state.started
        → ∃ known ∈ before.db.servers.rows,
          known.id = server.id ∧ known.nodeId = server.nodeId ∧ known.state.started := by
    intro server stored started
    rw [sameServers] at stored
    exact ⟨server, stored, rfl, rfl, started⟩
  cases event with
  | snapshot nodeId measures systemctl =>
      refine ⟨listed.clock, ?_⟩
      intro server stored started heartbeat sent here late
      rcases List.mem_append.mp sent with old | new
      · exact listed.listed server stored started heartbeat old here late
      · cases List.mem_singleton.mp new
        rcases late with starting | earlier
        · exact timely server stored here started starting
        · exact absurd earlier (Nat.not_lt.mpr (listed.clock server.id))
  | deliver index now =>
      unfold performHeartbeatEvent
      dsimp only
      split
      · exact listed
      · rename_i heartbeat found
        refine listed.shrink listed.clock ?_ (fun _ => List.mem_of_mem_eraseIdx)
          (fun _ _ _ late => late)
        intro server stored started
        obtain ⟨known, member, sameId, sameNode, kept | ⟨suspended, _⟩⟩ :=
          heartbeat.delivered_server now before.db stored
        · exact ⟨known, member, sameId, sameNode, kept ▸ started⟩
        · rw [suspended] at started
          rcases started with state | state <;> cases state
  | lose index =>
      exact listed.shrink listed.clock (same rfl) (fun _ => List.mem_of_mem_eraseIdx)
        (fun _ _ _ late => late)
  | beginStart serverId =>
      refine ⟨listed.clock, ?_⟩
      intro server stored started heartbeat sent here late
      by_cases own : server.id = serverId
      · exact timely server stored own started heartbeat sent here
      · refine listed.listed server stored started heartbeat sent here ?_
        rcases late with starting | earlier
        · refine .inl ?_
          have other : Function.update before.starting serverId (before.starting serverId + 1)
              server.id = before.starting server.id :=
            Function.update_of_ne own _ _
          exact other ▸ starting
        · exact .inr earlier
  | assignNode serverId nodeId vmIpv4 vmPort =>
      unfold performHeartbeatEvent
      dsimp only
      split
      · refine ⟨listed.clock, ?_⟩
        intro server stored started heartbeat sent here late
        obtain ⟨known, member, _, ⟨own, rfl⟩ | ⟨_, rfl⟩⟩ := Table.of_mem_modify stored
        · exact own ▸ timely heartbeat sent (Option.some.inj here).symm
        · exact listed.listed server member started heartbeat sent here late
      · exact listed
  | launch serverId =>
      unfold performHeartbeatEvent
      dsimp only
      split
      · exact listed
      · split
        · rename_i starting
          refine listed.shrink ?_ (same rfl) (fun _ sent => sent) ?_
          · intro other
            by_cases own : other = serverId
            · rw [own]
              exact (Function.update_self ..).le
            · exact (Function.update_of_ne own ..).le.trans (Nat.le_succ_of_le (listed.clock other))
          · intro heartbeat _ other late
            by_cases own : other = serverId
            · rw [own]
              exact .inl starting
            · rcases late with waiting | earlier
              · exact .inl (by simpa [own] using waiting)
              · exact .inr (by simpa [own] using earlier)
        · exact listed
  | commitRunning serverId loaded =>
      refine ⟨listed.clock, ?_⟩
      intro server stored started heartbeat sent here late
      obtain ⟨known, member, _, ⟨own, rfl⟩ | ⟨_, rfl⟩⟩ := Table.of_mem_modify stored
      · exact own ▸ timely known member own heartbeat sent here (own ▸ late)
      · exact listed.listed server member started heartbeat sent here late
  | abandonStart serverId =>
      refine listed.shrink listed.clock (same rfl) (fun _ sent => sent) ?_
      intro heartbeat _ other late
      have fewer : Function.update before.starting serverId (before.starting serverId - 1) other
          ≤ before.starting other := by
        by_cases own : other = serverId
        · rw [own, Function.update_self]
          exact Nat.sub_le _ _
        · rw [Function.update_of_ne own]
      rcases late with waiting | earlier
      · exact .inl (Nat.lt_of_lt_of_le waiting fewer)
      · exact .inr earlier
  | exit nodeId name =>
      exact listed.shrink listed.clock (same rfl) (fun _ sent => sent) (fun _ _ _ late => late)
  | startContainer deploymentId =>
      exact listed.shrink (fun serverId => Nat.le_succ_of_le (listed.clock serverId)) (same rfl)
        (fun _ sent => sent) (fun _ _ _ late => late)
  | recordHealth nodeId name entry =>
      exact listed.shrink listed.clock (same rfl) (fun _ sent => sent) (fun _ _ _ late => late)
  | stopContainer nodeId name =>
      exact listed.shrink listed.clock (same rfl) (fun _ sent => sent) (fun _ _ _ late => late)
  | commit db =>
      refine ⟨listed.clock, ?_⟩
      intro server stored started heartbeat sent here late
      rcases timely.1 server stored started with ⟨known, member, sameId, sameNode, active⟩ | fresh
      · rw [← sameId] at late ⊢
        exact listed.listed known member active heartbeat sent (sameNode.trans here) late
      · exact fresh heartbeat sent here late

theorem HeartbeatSite.reports_agent (site : HeartbeatSite) (changed : Uuid) {agent : NodeAgent}
    {nodeId deploymentId : Uuid} {entry : HealthEntry}
    (reported : (site.withAgent changed agent).Reports nodeId deploymentId entry)
    : site.Reports nodeId deploymentId entry
      ∨ ∃ named ∈ agent.health, named.2 = entry ∧ named ∉ (site.agents changed).health := by
  rcases reported with known | sent
  · by_cases own : nodeId = changed
    · subst own
      have known : entry ∈ entriesOf deploymentId agent.health := by
        simpa [HeartbeatSite.withAgent] using known
      obtain ⟨named, member, rfl⟩ := List.mem_map.mp known
      obtain ⟨member, about⟩ := List.mem_filter.mp member
      by_cases old : named ∈ (site.agents nodeId).health
      · exact .inl (.inl (List.mem_map.mpr ⟨named, List.mem_filter.mpr ⟨old, about⟩, rfl⟩))
      · exact .inr ⟨named, member, rfl, old⟩
    · refine .inl (.inl ?_)
      simpa [HeartbeatSite.withAgent, own] using known
  · exact .inl (.inr sent)

theorem TimelyStep.keepsCalm {before after : HeartbeatSite} {event : HeartbeatEvent}
    (taken : TimelyStep functions settings before event after) (calm : EntriesCalm before)
    : EntriesCalm after := by
  obtain ⟨⟨rfl⟩, timely⟩ := taken
  have same {next : HeartbeatSite}
      (sameDeployments : next.db.appDeployments = before.db.appDeployments)
      : ∀ deployment ∈ next.db.appDeployments.rows, ∃ known ∈ before.db.appDeployments.rows,
        known.id = deployment.id ∧ known.nodeId = deployment.nodeId := by
    intro deployment stored
    rw [sameDeployments] at stored
    exact ⟨deployment, stored, rfl, rfl⟩
  have fewer {nodeId deploymentId : Uuid} {entry : HealthEntry} {inFlight : List Heartbeat}
      (sent : ∀ heartbeat ∈ inFlight, heartbeat ∈ before.inFlight)
      (reported : HeartbeatSite.Reports { before with inFlight } nodeId deploymentId entry)
      : before.Reports nodeId deploymentId entry := by
    rcases reported with known | ⟨heartbeat, member, own, about⟩
    · exact .inl known
    · exact .inr ⟨heartbeat, sent heartbeat member, own, about⟩
  cases event with
  | snapshot nodeId measures systemctl =>
      refine calm.shrink calm.clock (same rfl) ?_
      intro other deploymentId entry reported outdated
      refine ⟨?_, outdated⟩
      rcases reported with known | ⟨heartbeat, sent, own, about⟩
      · exact .inl known
      · rcases List.mem_append.mp sent with old | new
        · exact .inr ⟨heartbeat, old, own, about⟩
        · cases List.mem_singleton.mp new
          exact .inl (own ▸ about)
  | deliver index now =>
      unfold performHeartbeatEvent
      dsimp only
      split
      · exact calm
      · rename_i heartbeat found
        refine calm.shrink calm.clock (fun _ => heartbeat.delivered_node now before.db) ?_
        intro nodeId deploymentId entry reported outdated
        exact ⟨fewer (fun _ => List.mem_of_mem_eraseIdx) reported, outdated⟩
  | lose index =>
      refine calm.shrink calm.clock (same rfl) ?_
      intro nodeId deploymentId entry reported outdated
      exact ⟨fewer (fun _ => List.mem_of_mem_eraseIdx) reported, outdated⟩
  | beginStart serverId =>
      exact calm.shrink calm.clock (same rfl) (fun _ _ _ known outdated => ⟨known, outdated⟩)
  | assignNode serverId nodeId vmIpv4 vmPort =>
      unfold performHeartbeatEvent
      dsimp only
      split
      · exact calm.shrink calm.clock (same rfl) (fun _ _ _ known outdated => ⟨known, outdated⟩)
      · exact calm
  | launch serverId =>
      unfold performHeartbeatEvent
      dsimp only
      split
      · exact calm
      · rename_i nodeId _
        split
        · refine calm.shrink (fun id => Nat.le_succ_of_le (calm.clock id)) (same rfl) ?_
          intro other deploymentId entry reported outdated
          refine ⟨?_, outdated⟩
          rcases before.reports_agent nodeId reported with known | ⟨named, own, _, unknown⟩
          · exact known
          · exact absurd own unknown
        · exact calm
  | commitRunning serverId loaded =>
      exact calm.shrink calm.clock (same rfl) (fun _ _ _ known outdated => ⟨known, outdated⟩)
  | abandonStart serverId =>
      exact calm.shrink calm.clock (same rfl) (fun _ _ _ known outdated => ⟨known, outdated⟩)
  | exit nodeId name =>
      refine calm.shrink calm.clock (same rfl) ?_
      intro other deploymentId entry reported outdated
      refine ⟨?_, outdated⟩
      rcases before.reports_agent nodeId reported with known | ⟨named, own, _, unknown⟩
      · exact known
      · exact absurd own unknown
  | startContainer started =>
      refine ⟨?_, ?_⟩
      · intro deploymentId
        by_cases own : deploymentId = started
        · rw [own]
          exact (Function.update_self ..).le
        · exact (Function.update_of_ne own ..).le.trans
            (Nat.le_succ_of_le (calm.clock deploymentId))
      · intro deployment stored nodeId placed entry reported outdated
        by_cases own : deployment.id = started
        · exact timely deployment stored own nodeId placed entry (own ▸ reported)
        · refine calm.calm deployment stored nodeId placed entry reported ?_
          have kept : Function.update before.startedAt started (before.time + 1) deployment.id
              = before.startedAt deployment.id :=
            Function.update_of_ne own ..
          unfold HeartbeatSite.Outdated at outdated ⊢
          rw [← kept]
          exact outdated
  | recordHealth nodeId name recorded =>
      refine calm.shrink calm.clock (same rfl) ?_
      intro other deploymentId entry reported outdated
      refine ⟨?_, outdated⟩
      rcases before.reports_agent nodeId reported with known | ⟨named, member, rfl, unknown⟩
      · exact known
      · rcases List.mem_append.mp member with old | new
        · exact absurd (List.mem_of_mem_filter old) unknown
        · cases List.mem_singleton.mp new
          exact absurd outdated (Nat.not_lt.mpr (calm.clock deploymentId))
  | stopContainer nodeId name =>
      refine calm.shrink calm.clock (same rfl) ?_
      intro other deploymentId entry reported outdated
      refine ⟨?_, outdated⟩
      rcases before.reports_agent nodeId reported with known | ⟨named, member, _, unknown⟩
      · exact known
      · exact absurd (List.mem_of_mem_filter member) unknown
  | commit db =>
      refine ⟨calm.clock, ?_⟩
      intro deployment stored nodeId placed entry reported outdated
      rcases timely.2 deployment stored with ⟨known, member, sameId, sameNode⟩ | fresh
      · refine calm.calm known member nodeId (sameNode.trans placed) entry ?_ ?_
        · rw [sameId]
          exact reported
        · rw [sameId]
          exact outdated
      · exact fresh nodeId placed entry reported outdated

/-- A site at which no heartbeat is on its way, and nothing has been launched yet. -/
structure Quiet (site : HeartbeatSite) : Prop where
  inFlight : site.inFlight = []
  launchedAt : ∀ serverId, site.launchedAt serverId = 0
  startedAt : ∀ deploymentId, site.startedAt deploymentId = 0

/-- In every run of timely steps, no heartbeat that is delivered undoes a start: it suspends no
server that was launched after it was taken, and an entry that was recorded before the current
container changes no state.
-/
theorem timely_heartbeats_undo_no_start {start finish after : HeartbeatSite}
    {events : List HeartbeatEvent} {index : Nat} {now : Instant} {heartbeat : Heartbeat}
    (quiet : Quiet start) (run : Run (TimelyStep functions settings) start events finish)
    (found : finish.inFlight[index]? = some heartbeat)
    (delivered : HeartbeatStep functions settings finish (.deliver index now) after)
    : UndoesNoStart finish heartbeat after.db := by
  have listed : ServersListed finish := by
    refine run.invariant ServersListed (fun _ => True) (fun _ taken => taken.keepsListed)
      (fun _ _ => trivial) ⟨?_, ?_⟩
    · intro serverId
      rw [quiet.launchedAt]
      exact Nat.zero_le _
    · rw [quiet.inFlight]
      exact fun _ _ _ _ sent => absurd sent List.not_mem_nil
  have calm : EntriesCalm finish := by
    refine run.invariant EntriesCalm (fun _ => True) (fun _ taken => taken.keepsCalm)
      (fun _ _ => trivial) ⟨?_, ?_⟩
    · intro deploymentId
      rw [quiet.startedAt]
      exact Nat.zero_le _
    · intro deployment _ _ _ entry _ outdated
      unfold HeartbeatSite.Outdated at outdated
      rw [quiet.startedAt] at outdated
      exact absurd outdated (Nat.not_lt_zero _)
  have member : heartbeat ∈ finish.inFlight := List.mem_of_getElem? found
  have received : after.db = afterMessage functions settings heartbeat.nodeId
      (now, some heartbeat.message) finish.db := by
    rw [delivered.performed]
    unfold performHeartbeatEvent
    simp only [found]
  rw [received]
  refine ⟨?_, ?_⟩
  · intro server stored started late next there suspended
    obtain ⟨row, sameId⟩ := Table.get?_some there
    obtain ⟨before, known, beforeId, _, kept | ⟨_, own, missed⟩⟩ :=
      heartbeat.delivered_server now finish.db row
    · have same : before = server :=
        finish.db.servers.eq_of_key_eq known stored (beforeId.trans sameId)
      rw [← same, ← kept, suspended] at started
      rcases started with state | state <;> cases state
    · have same : before = server :=
        finish.db.servers.eq_of_key_eq known stored (beforeId.trans sameId)
      rw [same] at own missed
      exact missed (listed.listed server stored started heartbeat member own late)
  · intro deployment stored outdated
    refine heartbeat.delivered_deployment now finish.db stored ?_
    intro own entry about
    exact calm.calm deployment stored heartbeat.nodeId own entry
      (.inr ⟨heartbeat, member, rfl, about⟩) (outdated entry about)

def numberColumns : SessionFunctions :=
  { plainColumns with
    floatColumn := fun value =>
      match value with
      | .int count => some count
      | .float measure => some measure
      | _ => none }

def sleepingServer : HeartbeatSite where
  db :=
    {
      servers :=
        ⟨[{ id := 5, nodeId := some 1, ownerId := 7, worldName := "survival",
            state := .suspended, lastActivity := 40 }],
          by simp⟩
      nodes :=
        ⟨[{ id := 1, name := "west", ipAddress := "10.0.0.3", status := .online,
            statusUpdatedAt := 0 }],
          by simp⟩
    }

theorem sleepingServer_quiet : Quiet sleepingServer := ⟨rfl, fun _ => rfl, fun _ => rfl⟩

/-- The events of a start, and the heartbeat that is on its way after them. -/
def afterEvents (events : List HeartbeatEvent) : HeartbeatSite :=
  events.foldl (performHeartbeatEvent numberColumns {}) sleepingServer

def lateSnapshot : List HeartbeatEvent :=
  [.beginStart 5, .launch 5, .snapshot 1 {} true, .commitRunning 5 .suspended]

/-- The heartbeat of a running server leaves it running. -/
theorem late_snapshot_undoes_nothing
    : ∃ heartbeat, (afterEvents lateSnapshot).inFlight[0]? = some heartbeat
      ∧ UndoesNoStart (afterEvents lateSnapshot) heartbeat
          (afterEvents (lateSnapshot ++ [.deliver 0 60])).db := by
  have run : Run (TimelyStep numberColumns {}) sleepingServer lateSnapshot
      (afterEvents lateSnapshot) := by
    refine .next (.next (.next (.next .done ⟨⟨rfl⟩, ?_⟩) ⟨⟨rfl⟩, trivial⟩) ⟨⟨rfl⟩, ?_⟩)
      ⟨⟨rfl⟩, ?_⟩
    · intro server _ _ heartbeat sent _ late
      cases List.mem_singleton.mp sent
      rcases late with starting | earlier
      · exact absurd starting (by decide +kernel)
      · exact absurd earlier (by decide +kernel)
    · intro server stored _ started
      cases List.mem_singleton.mp stored
      rcases started with state | state <;> cases state
    · intro server stored _ started
      cases List.mem_singleton.mp stored
      rcases started with state | state <;> cases state
  have delivered : HeartbeatStep numberColumns {} (afterEvents lateSnapshot) (.deliver 0 60)
      (afterEvents (lateSnapshot ++ [.deliver 0 60])) :=
    ⟨rfl⟩
  exact ⟨_, rfl, timely_heartbeats_undo_no_start sleepingServer_quiet run rfl delivered⟩

def earlySnapshot : List HeartbeatEvent :=
  [.beginStart 5, .snapshot 1 {} true, .launch 5, .commitRunning 5 .suspended]

/-- The heartbeat suspends the server that has just been started. -/
theorem early_snapshot_suspends_server
    : ¬ ∀ functions settings start events finish index now heartbeat after, Quiet start
      → Run (HeartbeatStep functions settings) start events finish
      → finish.inFlight[index]? = some heartbeat
      → HeartbeatStep functions settings finish (.deliver index now) after
      → UndoesNoStart finish heartbeat after.db := by
  intro undoes
  have run : Run (HeartbeatStep numberColumns {}) sleepingServer earlySnapshot
      (afterEvents earlySnapshot) :=
    .next (.next (.next (.next .done ⟨rfl⟩) ⟨rfl⟩) ⟨rfl⟩) ⟨rfl⟩
  have kept := (undoes numberColumns {} _ _ _ 0 60 _ _ sleepingServer_quiet run rfl ⟨rfl⟩).servers
    _ List.mem_cons_self (.inr rfl) (.inr (by decide +kernel)) _ rfl
  exact kept rfl

end Blockhost
