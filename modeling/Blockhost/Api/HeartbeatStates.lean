import Blockhost.Api.HeartbeatScope

/-! What the heartbeat of a node does to the states of servers and deployments. -/

namespace Blockhost

open Library

variable {functions : SessionFunctions} {settings : Settings} {now : Instant} {nodeId : Uuid}

def reconciledState (nodeId : Uuid) (reported : List Uuid) (server : Server) : ServerState :=
  if server.nodeId = some nodeId && server.state.reservesRam && server.id ∉ reported then
    .suspended
  else server.state

theorem applyHeartbeat_serverStates {stats : Fields} {db next : Database}
    (applied : applyHeartbeat functions settings now nodeId stats db = .ok next)
    : ∃ running, runningReports stats = some running
      ∧ ∃ change : Change Server.id, next.servers = db.servers.update change
        ∧ ∀ server, (change.apply server).nodeId = server.nodeId
          ∧ (change.apply server).state
            = reconciledState nodeId (reportedServers running) server := by
  obtain ⟨totalRamMb, cpuUsagePercent, cpuCores, counted, running, reports, read, _, done,
      applied⟩ :=
    applyHeartbeat_parts applied
  refine ⟨running, read, ?_⟩
  have finished := reportDeployments_servers applied
  have players := reportPlayers_servers done
  let reset : Change Server.id :=
    Change.when { apply := fun server => { server with playersOnline := 0 } }
      (fun server => server.nodeId = some nodeId)
  let suspend : Change Server.id :=
    suspendServer.when (fun server =>
      server.nodeId = some nodeId && server.state.reservesRam
        && server.id ∉ reportedServers running)
  refine ⟨⟨fun server => suspend.apply ((countAll functions now running).apply
    (reset.apply server)), ?_⟩, ?_, ?_⟩
  · intro server
    rw [suspend.kept, (countAll functions now running).kept, reset.kept]
  · refine Table.eq_of_rows_eq ?_
    rw [finished]
    change List.map suspend.apply counted.servers.rows = _
    rw [players, Table.rows_update, List.map_map, Table.rows_update]
    change List.map _ (List.map reset.apply db.servers.rows) = _
    rw [List.map_map]
    rfl
  · intro server
    dsimp only
    have emptied : ∃ playersOnline, reset.apply server = { server with playersOnline } := by
      by_cases own : server.nodeId = some nodeId
      · exact ⟨0, if_pos (decide_eq_true own)⟩
      · exact ⟨server.playersOnline, if_neg (by simpa using own)⟩
    obtain ⟨playersOnline, emptied⟩ := emptied
    rw [emptied, countAll_apply]
    unfold reconciledState
    dsimp only [suspend, Change.when]
    split <;> exact ⟨rfl, rfl⟩

/-- A health status that is also a state of the deployment. -/
def troubled (health : Fields) : Bool :=
  (health.get "status").isText "crash_loop" || (health.get "status").isText "quota_exceeded"

def ReportsTrouble (deploymentId : Uuid) (report : String × Json) : Prop :=
  parseUuid report.1 = some deploymentId
  ∧ ∃ health, report.2.fields? = some health ∧ troubled health = true

theorem applyHealth_state {health : Fields} (calm : ¬ troubled health = true)
    (deployment : AppDeployment)
    : (applyHealth (health.get "status") deployment).state = deployment.state := by
  unfold troubled at calm
  unfold applyHealth
  split
  · rfl
  · rfl
  · rename_i same
    rw [same] at calm
    exact absurd rfl calm
  · rename_i same
    rw [same] at calm
    exact absurd rfl calm
  · rfl

theorem applyHealth_nodeId (status : Json) (deployment : AppDeployment)
    : (applyHealth status deployment).nodeId = deployment.nodeId := by
  unfold applyHealth
  split <;> rfl

def placedState (db : Database) (deploymentId : Uuid) : Option (Option Uuid × DeploymentState) :=
  (db.appDeployments.get? deploymentId).map
    (fun deployment => (deployment.nodeId, deployment.state))

theorem reportDeployment_state {db next : Database} {report : String × Json}
    {deploymentId : Uuid} (calm : ¬ ReportsTrouble deploymentId report)
    (reported : reportDeployment functions nodeId db report = .ok next)
    : placedState next deploymentId = placedState db deploymentId := by
  unfold reportDeployment at reported
  split at reported
  · rename_i deployment health found read
    split at reported
    · obtain ⟨restartCount, _, stored⟩ := except_bind_ok reported
      cases stored
      obtain ⟨named, parsed, found⟩ := Option.bind_eq_some_iff.mp found
      unfold placedState
      dsimp only
      rw [Table.get?_modify]
      split
      · rename_i here
        have own : named = deploymentId := by rw [here, (Table.get?_some found).2]
        have quiet : ¬ troubled health = true :=
          fun trouble => calm ⟨own ▸ parsed, health, read, trouble⟩
        rw [Option.map_map]
        refine congrArg (fun read => (db.appDeployments.get? deploymentId).map read) (funext ?_)
        intro row
        exact Prod.ext (applyHealth_nodeId _ row) (applyHealth_state quiet row)
      · rfl
    · cases reported
      rfl
  · cases reported
    rfl

theorem applyHeartbeat_deploymentState {stats reports : Fields} {db next : Database}
    (applied : applyHeartbeat functions settings now nodeId stats db = .ok next)
    (read : entries stats "deployment_health" = .ok reports) {deploymentId : Uuid}
    (calm : ∀ report ∈ reports, ¬ ReportsTrouble deploymentId report)
    : placedState next deploymentId = placedState db deploymentId := by
  obtain ⟨_, _, _, counted, running, healths, _, same, done, applied⟩ :=
    applyHeartbeat_parts applied
  cases read.symm.trans same
  refine foldlM_invariant_mem (fun state => placedState state deploymentId
    = placedState db deploymentId) ?_ applied ?_
  · intro report member state after reported kept
    exact (reportDeployment_state (calm report member) reported).trans kept
  · change (counted.appDeployments.get? deploymentId).map _ = _
    rw [reportPlayers_deployments done]
    rfl

theorem applyHeartbeat_deploymentNode {stats : Fields} {db next : Database}
    (applied : applyHeartbeat functions settings now nodeId stats db = .ok next)
    (deploymentId : Uuid)
    : (next.appDeployments.get? deploymentId).map AppDeployment.nodeId
      = (db.appDeployments.get? deploymentId).map AppDeployment.nodeId := by
  obtain ⟨_, _, _, counted, running, healths, _, same, done, applied⟩ :=
    applyHeartbeat_parts applied
  refine foldlM_invariant
    (fun state => (state.appDeployments.get? deploymentId).map AppDeployment.nodeId
      = (db.appDeployments.get? deploymentId).map AppDeployment.nodeId)
    (fun _ _ _ reported kept => (reportDeployment_nodeId reported deploymentId).trans kept)
    applied ?_
  change (counted.appDeployments.get? deploymentId).map _ = _
  rw [reportPlayers_deployments done]
  rfl

theorem applyHeartbeat_foreignState {stats : Fields} {db next : Database}
    (applied : applyHeartbeat functions settings now nodeId stats db = .ok next)
    {deployment : AppDeployment} (stored : deployment ∈ db.appDeployments.rows)
    (foreign : deployment.nodeId ≠ some nodeId)
    : placedState next deployment.id = placedState db deployment.id := by
  unfold placedState
  rw [Table.get?_of_mem stored,
    Table.get?_of_mem (applyHeartbeat_deployments applied deployment stored foreign)]

end Blockhost
