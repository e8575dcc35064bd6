import Blockhost.Services.BestNodes
import Blockhost.Library.Result
import Blockhost.Library.Run
import Blockhost.Services.Provisioning
import Blockhost.Services.StoredRam

/-! Whether the placements of servers, app deployments and database instances overcommit a node.
The choice of a node sees the memory of some of its workloads; here all of them are counted.
-/

namespace Blockhost

open Library

/-- Server states that claim memory: those that reserve it, and a server yet to be started. -/
def ServerState.claimsRam : ServerState → Bool
  | .created | .provisioning | .running | .syncing => true
  | _ => false

def DeploymentState.claimsRam : DeploymentState → Bool
  | .created | .building | .running => true
  | _ => false

/-- The memory of a node's database instances in some states. -/
def databasesRamMb (db : Database) (counts : DeploymentState → Bool) (nodeId : Uuid) : Int :=
  total (fun database => database.nodeId = some nodeId && counts database.state)
    DatabaseInstance.ramLimitMb db.databaseInstances.rows

/-- The memory of all workloads that are active on a node. -/
def activeRamMb (settings : Settings) (db : Database) (now : Instant) (nodeId : Uuid) : Int :=
  serversRamMb settings db now ServerState.claimsRam nodeId
    + deploymentsRamMb db DeploymentState.claimsRam nodeId
    + databasesRamMb db DeploymentState.claimsRam nodeId

/-- The active workloads of a node have room on it. -/
def FitsOn (settings : Settings) (db : Database) (now : Instant) (nodeId : Uuid) : Prop :=
  ∃ node ∈ db.nodes.rows, node.id = nodeId
    ∧ activeRamMb settings db now nodeId ≤ node.totalRamMb

instance (settings : Settings) (db : Database) (now : Instant) (nodeId : Uuid)
    : Decidable (FitsOn settings db now nodeId) :=
  inferInstanceAs (Decidable (∃ node ∈ db.nodes.rows, _))

/-- A node that the choice considers. -/
def isCandidate (now : Instant) (node : Node) : Bool :=
  node.status = .online && node.tier = .shared && isNodeHeartbeatFresh node now

/-- Every workload that claims memory on a node is one that the choice of a node counts, but for
the server that is being placed.
-/
structure AllCounted (settings : Settings) (db : Database) (now : Instant)
    (placed : Option Uuid) (nodeId : Uuid)
    : Prop where
  servers
    : ∀ server ∈ db.servers.rows, server.nodeId = some nodeId → some server.id ≠ placed
      → server.state = .created ∨ server.state = .syncing
      → requiredRamMb settings db now server.id = 0
  deployments
    : ∀ deployment ∈ db.appDeployments.rows, deployment.nodeId = some nodeId
      → deployment.state = .created → deployment.ramLimitMb = 0
  databases
    : ∀ database ∈ db.databaseInstances.rows, database.nodeId = some nodeId
      → database.state.claimsRam = true → database.ramLimitMb = 0

-- The operations

/-- The transactions of a start that choose a node: a server leaves a node that is gone, dead or
full, and a server without a node gets the best one.
-/
def chooseStartNode (settings : Settings) (now : Instant) (tests : PortTests) (serverId : Uuid)
    (db : Database)
    : Placed :=
  match db.servers.get? serverId with
  | none => (db, none)
  | some server =>
      match checkStartNode settings now server db with
      | .error _ => (db, none)
      | .ok (checked, .stays) => (checked, none)
      | .ok (checked, _) =>
          match assignBestNode settings now tests server checked with
          | .error _ => (checked, none)
          | .ok (next, assigned) =>
              (next, if assigned then (next.servers.get? serverId).bind Server.nodeId else none)

/-- A whole operation, or one of its transactions where an agent is called in between. -/
inductive WorkloadAction where
  | chooseStartNode (serverId : Uuid)
  | prepareStart (server : Server) (lookedUp : Bool)
  | finishStart (serverId : Uuid)
  | stopServer (serverId : Uuid)
  | refreshRam (nodeId : Uuid)
  | createDeployment (user : User) (payload : CreateDeploymentRequest)
  | restartDeployment (user : User) (deploymentId : Uuid)
  | assignDeploymentNode (deploymentId : Uuid)
  | buildDeployment (deploymentId : Uuid)
  | finishDeployment (deploymentId : Uuid) (started : Bool)
  | stopDeployment (user : User) (deploymentId : Uuid)
  | createDatabase (user : User) (payload : CreateDatabaseRequest)
      (credentials : DatabaseCredentials)
  | startDatabase (user : User) (databaseId : Uuid)
  | restartDatabase (user : User) (databaseId : Uuid)
  | assignDatabaseNode (databaseId : Uuid)
  | finishDatabase (databaseId : Uuid) (started : Bool)
  | stopDatabase (user : User) (databaseId : Uuid)
  | deployTemplate (user : User) (templateId : String) (payload : DeployTemplateRequest)
      (credentials : DatabaseCredentials)

def WorkloadAction.server? : WorkloadAction → Option Uuid
  | .chooseStartNode serverId => some serverId
  | _ => none

/-- A refused request commits nothing. -/
def orRefused (db : Database) : Except HttpError Placed → Placed
  | .ok placed => placed
  | .error _ => (db, none)

/-- A transaction that places nothing. -/
def unplaced {Error : Type} (db : Database) : Except Error Database → Placed
  | .ok next => (next, none)
  | .error _ => (db, none)

def performWorkload (settings : Settings) (serversDir : String) (now : Instant)
    (tests : PortTests) (db : Database)
    : WorkloadAction → Placed
  | .chooseStartNode serverId => chooseStartNode settings now tests serverId db
  | .prepareStart server lookedUp =>
      unplaced db (prepareServerForStart settings serversDir tests lookedUp server db)
  | .finishStart serverId => (changeServer serverId (markRunning settings) db, none)
  | .stopServer serverId => (changeServer serverId suspendServer db, none)
  | .refreshRam nodeId => (refreshNodeAllocatedRam settings now nodeId db, none)
  | .createDeployment user payload => orRefused db (createDeployment settings now user payload db)
  | .restartDeployment user deploymentId => restartDeployment settings now user deploymentId db
  | .assignDeploymentNode deploymentId => assignDeploymentNode settings now deploymentId db
  | .buildDeployment deploymentId =>
      (changeDeployment deploymentId (setDeploymentState .building) db, none)
  | .finishDeployment deploymentId started =>
      (changeDeployment deploymentId (finishDeployment started) db, none)
  | .stopDeployment user deploymentId => unplaced db (stopDeployment user deploymentId db)
  | .createDatabase user payload credentials =>
      orRefused db (createDatabase settings now user payload credentials db)
  | .startDatabase user databaseId => unplaced db (startDatabase user databaseId db)
  | .restartDatabase user databaseId => unplaced db (restartDatabase user databaseId db)
  | .assignDatabaseNode databaseId => assignDatabaseNode settings now databaseId db
  | .finishDatabase databaseId started =>
      (changeDatabase databaseId (finishDatabase started) db, none)
  | .stopDatabase user databaseId => unplaced db (stopDatabase user databaseId db)
  | .deployTemplate user templateId payload credentials =>
      orRefused db (deployTemplate settings now user templateId payload credentials db)

structure Decision where
  action : WorkloadAction
  now : Instant
  tests : PortTests := {}
  assigned : Option Uuid := none

def WorkloadStep (settings : Settings) (serversDir : String) (before : Database)
    (decision : Decision) (after : Database)
    : Prop :=
  performWorkload settings serversDir decision.now decision.tests before decision.action
    = (after, decision.assigned)

/-- A step that assigns a workload finds the other workloads of all candidates counted. -/
def CountedStep (settings : Settings) (serversDir : String) (before : Database)
    (decision : Decision) (after : Database)
    : Prop :=
  WorkloadStep settings serversDir before decision after
    ∧ (decision.assigned ≠ none → ∀ node ∈ before.nodes.rows,
      isCandidate decision.now node = true
      → AllCounted settings before decision.now decision.action.server? node.id)

-- What a placement adds

theorem selectBestNode_room {settings : Settings} {db : Database} {now : Instant}
    {requiredRamMb : Int} {node : Node}
    (selected : selectBestNode settings db now requiredRamMb = some node)
    : node ∈ db.nodes.rows ∧ isCandidate now node = true
      ∧ placementRamMb settings db now node.id + requiredRamMb ≤ node.totalRamMb := by
  obtain ⟨stored, online, tier, fresh, roomy⟩ := (selectBestNodeOfTier_some selected).1
  have room := le_trans (le_max_left ..) roomy
  unfold freeRamMb at room
  refine ⟨stored, ?_, by omega⟩
  unfold isCandidate
  rw [decide_eq_true online, decide_eq_true tier, fresh]
  rfl

section Accounting

variable {settings : Settings} {db : Database} {now : Instant} {nodeId : Uuid}

theorem AllCounted.activeRamMb_eq (counted : AllCounted settings db now none nodeId)
    : activeRamMb settings db now nodeId = placementRamMb settings db now nodeId := by
  have servers : serversRamMb settings db now ServerState.claimsRam nodeId
      = serversRamMb settings db now (fun state => state = .running || state = .provisioning)
        nodeId := by
    refine total_congr ?_
    intro server stored
    by_cases here : server.nodeId = some nodeId
    · have overlooked := counted.servers server stored here (Option.some_ne_none _)
      unfold requiredRamMb at overlooked
      cases state : server.state <;>
        simp_all [weight, ServerState.claimsRam]
    · simp [weight, here]
  have deployments : deploymentsRamMb db DeploymentState.claimsRam nodeId
      = deploymentsRamMb db DeploymentState.reservesRam nodeId := by
    refine total_congr ?_
    intro deployment stored
    by_cases here : deployment.nodeId = some nodeId
    · have overlooked := counted.deployments deployment stored here
      cases state : deployment.state <;>
        simp_all [weight, DeploymentState.claimsRam, DeploymentState.reservesRam]
    · simp [weight, here]
  have databases : databasesRamMb db DeploymentState.claimsRam nodeId = 0 := by
    refine total_weightless ?_
    intro database stored
    by_cases here : database.nodeId = some nodeId
    · have overlooked := counted.databases database stored here
      simp only [weight, here, decide_true, Bool.true_and]
      split
      · rename_i claims
        exact overlooked claims
      · rfl
    · simp [weight, here]
  rw [activeRamMb, servers, deployments, databases, placementRamMb_eq, Int.add_zero]

def serverClaim (settings : Settings) (db : Database) (now : Instant) (nodeId : Uuid)
    (server : Server)
    : Int :=
  weight (fun server => server.nodeId = some nodeId && server.state.claimsRam)
    (fun server => requiredRamMb settings db now server.id) server

def deploymentClaim (nodeId : Uuid) (deployment : AppDeployment) : Int :=
  weight (fun deployment => deployment.nodeId = some nodeId && deployment.state.claimsRam)
    AppDeployment.ramLimitMb deployment

def databaseClaim (nodeId : Uuid) (database : DatabaseInstance) : Int :=
  weight (fun database => database.nodeId = some nodeId && database.state.claimsRam)
    DatabaseInstance.ramLimitMb database

theorem activeRamMb_changeServer {server : Server} (stored : server ∈ db.servers.rows)
    (change : Change Server.id)
    : activeRamMb settings (changeServer server.id change db) now nodeId
      = activeRamMb settings db now nodeId - serverClaim settings db now nodeId server
        + serverClaim settings db now nodeId (change.apply server) := by
  have servers : serversRamMb settings (changeServer server.id change db) now
      ServerState.claimsRam nodeId
      = serversRamMb settings db now ServerState.claimsRam nodeId
        - serverClaim settings db now nodeId server
        + serverClaim settings db now nodeId (change.apply server) :=
    db.servers.total_modify change stored
  change _ + deploymentsRamMb db _ _ + databasesRamMb db _ _
    = _ + deploymentsRamMb db _ _ + databasesRamMb db _ _ - _ + _
  omega

theorem activeRamMb_changeDeployment {deployment : AppDeployment}
    (stored : deployment ∈ db.appDeployments.rows) (change : Change AppDeployment.id)
    : activeRamMb settings (changeDeployment deployment.id change db) now nodeId
      = activeRamMb settings db now nodeId - deploymentClaim nodeId deployment
        + deploymentClaim nodeId (change.apply deployment) := by
  have deployments : deploymentsRamMb (changeDeployment deployment.id change db)
      DeploymentState.claimsRam nodeId
      = deploymentsRamMb db DeploymentState.claimsRam nodeId
        - deploymentClaim nodeId deployment + deploymentClaim nodeId (change.apply deployment) :=
    db.appDeployments.total_modify change stored
  change serversRamMb settings db now _ _ + _ + databasesRamMb db _ _
    = serversRamMb settings db now _ _ + _ + databasesRamMb db _ _ - _ + _
  omega

theorem activeRamMb_changeDatabase {database : DatabaseInstance}
    (stored : database ∈ db.databaseInstances.rows) (change : Change DatabaseInstance.id)
    : activeRamMb settings (changeDatabase database.id change db) now nodeId
      = activeRamMb settings db now nodeId - databaseClaim nodeId database
        + databaseClaim nodeId (change.apply database) := by
  have databases : databasesRamMb (changeDatabase database.id change db)
      DeploymentState.claimsRam nodeId
      = databasesRamMb db DeploymentState.claimsRam nodeId
        - databaseClaim nodeId database + databaseClaim nodeId (change.apply database) :=
    db.databaseInstances.total_modify change stored
  change serversRamMb settings db now _ _ + deploymentsRamMb db _ _ + _
    = serversRamMb settings db now _ _ + deploymentsRamMb db _ _ + _ - _ + _
  omega

end Accounting

-- Placements

/-- The chosen node hosts one more workload of the required memory. -/
structure Assigns (settings : Settings) (now : Instant) (middle after : Database)
    (requiredRamMb : Int) (node : Node)
    : Prop where
  chosen : selectBestNode settings middle now requiredRamMb = some node
  grows
    : activeRamMb settings after now node.id
      = activeRamMb settings middle now node.id + requiredRamMb
  hosted : ∃ row ∈ after.nodes.rows, row.id = node.id ∧ row.totalRamMb = node.totalRamMb

theorem Assigns.fits {settings : Settings} {now : Instant} {middle after : Database}
    {requiredRamMb : Int} {node : Node}
    (assigns : Assigns settings now middle after requiredRamMb node)
    (counted : AllCounted settings middle now none node.id)
    : FitsOn settings after now node.id := by
  obtain ⟨_, _, room⟩ := selectBestNode_room assigns.chosen
  obtain ⟨row, stored, same, total⟩ := assigns.hosted
  refine ⟨row, stored, same, ?_⟩
  rw [assigns.grows, counted.activeRamMb_eq, total]
  exact room

/-- A step places a workload in a database in which it overlooks no more than before. -/
def Places (settings : Settings) (now : Instant) (placed : Option Uuid)
    (before after : Database) (nodeId : Uuid)
    : Prop :=
  ∃ middle requiredRamMb node, node.id = nodeId ∧ middle.nodes = before.nodes
    ∧ (∀ host, AllCounted settings before now placed host
      → AllCounted settings middle now none host)
    ∧ Assigns settings now middle after requiredRamMb node

section Operations

variable {settings : Settings} {now : Instant} {db after : Database} {nodeId : Uuid}

theorem hosted_of_selected {requiredRamMb : Int} {node : Node}
    (selected : selectBestNode settings db now requiredRamMb = some node)
    : ∃ row ∈ db.nodes.rows, row.id = node.id ∧ row.totalRamMb = node.totalRamMb :=
  ⟨node, (selectBestNodeOfTier_some selected).1.stored, rfl, rfl⟩

theorem nodeForWorkload_ok {ramLimitMb : Int} {node : Node}
    (found : nodeForWorkload settings now ramLimitMb db = .ok node)
    : selectBestNode settings db now ramLimitMb = some node := by
  unfold nodeForWorkload at found
  split at found
  · cases found
  · rename_i selected
    cases found
    exact selected

theorem places_newDeployment {ramLimitMb : Int} {node : Node}
    (selected : selectBestNode settings db now ramLimitMb = some node) (directory : String)
    (user : User) (projectId : Option Uuid)
    : Places settings now none db
      { db with
        appDeployments :=
          db.appDeployments.create (newDeployment directory user projectId ramLimitMb node.id) }
      node.id := by
  have hosted := hosted_of_selected selected
  refine ⟨db, ramLimitMb, node, rfl, rfl, fun _ counted => counted, selected, ?_, hosted⟩
  unfold activeRamMb deploymentsRamMb
  rw [Table.rows_create, total_append, total_cons, total_nil,
    weight_pass (by simp [newDeployment, DeploymentState.claimsRam])]
  change serversRamMb settings db now _ _ + (_ + (ramLimitMb + 0)) + databasesRamMb db _ _
    = serversRamMb settings db now _ _ + _ + databasesRamMb db _ _ + ramLimitMb
  omega

theorem places_newDatabase {ramLimitMb : Int} {node : Node}
    (selected : selectBestNode settings db now ramLimitMb = some node) (engine : DatabaseEngine)
    (credentials : DatabaseCredentials) (projectId : Uuid)
    : Places settings now none db
      { db with
        databaseInstances :=
          db.databaseInstances.create
            (newDatabase engine credentials projectId ramLimitMb node.id) }
      node.id := by
  have hosted := hosted_of_selected selected
  refine ⟨db, ramLimitMb, node, rfl, rfl, fun _ counted => counted, selected, ?_, hosted⟩
  unfold activeRamMb databasesRamMb
  rw [Table.rows_create, total_append, total_cons, total_nil,
    weight_pass (by simp [newDatabase, DeploymentState.claimsRam])]
  change serversRamMb settings db now _ _ + deploymentsRamMb db _ _ + (_ + (ramLimitMb + 0))
    = serversRamMb settings db now _ _ + deploymentsRamMb db _ _ + _ + ramLimitMb
  omega

theorem createDeployment_places {user : User} {payload : CreateDeploymentRequest}
    (created : createDeployment settings now user payload db = .ok (after, some nodeId))
    : Places settings now none db after nodeId := by
  obtain ⟨node, found, created⟩ := except_bind_ok created
  cases created
  exact places_newDeployment (nodeForWorkload_ok found) _ user payload.projectId

theorem createDatabase_places {user : User} {payload : CreateDatabaseRequest}
    {credentials : DatabaseCredentials}
    (created : createDatabase settings now user payload credentials db
      = .ok (after, some nodeId))
    : Places settings now none db after nodeId := by
  obtain ⟨project, _, created⟩ := except_bind_ok created
  obtain ⟨node, found, created⟩ := except_bind_ok created
  have selected := nodeForWorkload_ok found
  cases created
  exact places_newDatabase selected payload.engine credentials project.id

theorem deployTemplate_places {user : User} {templateId : String}
    {payload : DeployTemplateRequest} {credentials : DatabaseCredentials}
    (deployed : deployTemplate settings now user templateId payload credentials db
      = .ok (after, some nodeId))
    : Places settings now none db after nodeId := by
  unfold deployTemplate at deployed
  split at deployed
  · cases deployed
  · rename_i template _
    obtain ⟨project, _, deployed⟩ := except_bind_ok deployed
    obtain ⟨node, found, deployed⟩ := except_bind_ok deployed
    split at deployed
    · cases deployed
      exact places_newDatabase (nodeForWorkload_ok found) template.engine credentials project.id
    · cases deployed
      exact places_newDeployment (nodeForWorkload_ok found) _ user (some project.id)

theorem assignDeploymentNode_places {deploymentId : Uuid}
    (assigned : assignDeploymentNode settings now deploymentId db = (after, some nodeId))
    : Places settings now none db after nodeId := by
  unfold assignDeploymentNode at assigned
  split at assigned
  · cases assigned
  · rename_i deployment found
    obtain ⟨stored, rfl⟩ := Table.get?_some found
    split at assigned
    · split at assigned <;> cases assigned
    · rename_i homeless
      split at assigned
      · cases assigned
      · rename_i node selected
        have hosted := hosted_of_selected selected
        cases assigned
        refine ⟨db, _, node, rfl, rfl, fun _ counted => counted, selected, ?_, hosted⟩
        rw [activeRamMb_changeDeployment stored]
        simp [deploymentClaim, weight, homeless, buildDeploymentOn, DeploymentState.claimsRam]

theorem assignDatabaseNode_places {databaseId : Uuid}
    (assigned : assignDatabaseNode settings now databaseId db = (after, some nodeId))
    : Places settings now none db after nodeId := by
  unfold assignDatabaseNode at assigned
  split at assigned
  · cases assigned
  · rename_i database found
    obtain ⟨stored, rfl⟩ := Table.get?_some found
    split at assigned
    · split at assigned <;> cases assigned
    · rename_i homeless
      split at assigned
      · cases assigned
      · rename_i node selected
        have hosted := hosted_of_selected selected
        cases assigned
        refine ⟨db, _, node, rfl, rfl, fun _ counted => counted, selected, ?_, hosted⟩
        rw [activeRamMb_changeDatabase stored]
        simp [databaseClaim, weight, homeless, buildDatabaseOn, DeploymentState.claimsRam]

theorem getDeployment_ok {deploymentId : Uuid} {user : User} {deployment : AppDeployment}
    (found : getDeployment db deploymentId user = .ok deployment)
    : deployment ∈ db.appDeployments.rows ∧ deployment.id = deploymentId := by
  unfold getDeployment at found
  split at found
  · cases found
  · rename_i row known
    by_cases owned : row.ownerId = user.id
    · rw [if_pos owned] at found
      cases found
      exact Table.get?_some known
    · rw [if_neg owned] at found
      cases found

theorem restartDeployment_places {user : User} {deploymentId : Uuid}
    (restarted : restartDeployment settings now user deploymentId db = (after, some nodeId))
    : Places settings now none db after nodeId := by
  unfold restartDeployment at restarted
  cases found : getDeployment db deploymentId user with
  | error refusal =>
      rw [found] at restarted
      cases restarted
  | ok deployment =>
      obtain ⟨stored, rfl⟩ := getDeployment_ok found
      rw [found] at restarted
      dsimp only at restarted
      split at restarted
      · cases restarted
      · rename_i homeless
        split at restarted
        · cases restarted
        · rename_i node available
          cases restarted
          have selected := nodeForWorkload_ok available
          have hosted := hosted_of_selected selected
          have marked : (setDeploymentState .building).apply deployment
              ∈ (changeDeployment deployment.id (setDeploymentState .building)
                db).appDeployments.rows :=
            Table.mem_modify _ _ stored
          refine ⟨changeDeployment deployment.id (setDeploymentState .building) db,
            deployment.ramLimitMb, node, rfl, rfl, ?_, selected, ?_, hosted⟩
          · intro host counted
            refine ⟨counted.servers, ?_, counted.databases⟩
            intro row written here
            obtain ⟨old, known, rfl⟩ := List.mem_map.mp written
            by_cases same : old.id = deployment.id
            · rw [db.appDeployments.eq_of_key_eq known stored same] at here
              rw [Change.at_same _ rfl] at here
              exact absurd (Option.isSome_of_mem here) homeless
            · rw [Change.at_other _ same] at here ⊢
              exact counted.deployments old known here
          · refine (activeRamMb_changeDeployment marked (moveDeployment node.id)).trans ?_
            simp [deploymentClaim, weight, Option.not_isSome_iff_eq_none.mp homeless,
              setDeploymentState, moveDeployment, DeploymentState.claimsRam]

theorem assignBestNode_assigns {tests : PortTests} {server row : Server}
    (stored : row ∈ db.servers.rows) (same : row.id = server.id) (homeless : row.nodeId = none)
    (assigned : assignBestNode settings now tests server db = .ok (after, true))
    : ∃ node, (after.servers.get? server.id).bind Server.nodeId = some node.id
      ∧ Assigns settings now db after (requiredRamMb settings db now server.id) node := by
  rcases assignBestNode_ok assigned with ⟨none, _⟩ | ⟨node, port, _, selected, _, rfl, _⟩
  · cases none
  · rw [← same] at selected ⊢
    let refreshed := refreshNodeAllocatedRam settings now node.id db
    let placed := changeServer row.id (placeServer node port) refreshed
    have here : (placeServer node port).apply row ∈ placed.servers.rows :=
      Table.mem_modify _ _ stored
    have written : (setServerState .provisioning).apply ((placeServer node port).apply row)
        ∈ (changeServer row.id (setServerState .provisioning) placed).servers.rows :=
      Table.mem_modify _ _ here
    refine ⟨node, congrArg (Option.bind · Server.nodeId) (Table.get?_of_mem written), selected,
      ?_, ?_⟩
    · have before : row ∈ refreshed.servers.rows := stored
      have second : activeRamMb settings (changeServer row.id (setServerState .provisioning) placed)
          now node.id = _ := activeRamMb_changeServer here (setServerState .provisioning)
      have first : activeRamMb settings placed now node.id = _ :=
        activeRamMb_changeServer before (placeServer node port)
      have away : serverClaim settings refreshed now node.id row = 0 :=
        weight_fail (by simp [homeless])
      have claimed : serverClaim settings placed now node.id
          ((setServerState .provisioning).apply ((placeServer node port).apply row))
          = requiredRamMb settings db now row.id :=
        weight_pass (by simp [setServerState, placeServer, ServerState.claimsRam])
      have between : serverClaim settings placed now node.id ((placeServer node port).apply row)
          = serverClaim settings refreshed now node.id ((placeServer node port).apply row) := rfl
      have start : activeRamMb settings refreshed now node.id
          = activeRamMb settings db now node.id := rfl
      rw [second, first, away, claimed, between, start]
      omega
    · exact ⟨_, Table.mem_modify _ _ (selectBestNodeOfTier_some selected).1.stored, rfl, rfl⟩

theorem AllCounted.placing {middle : Database} {serverId host : Uuid}
    (counted : AllCounted settings db now (some serverId) host)
    (others : ∀ row ∈ middle.servers.rows, row.nodeId = some host
      → row ∈ db.servers.rows ∧ row.id ≠ serverId)
    (same : middle = { db with servers := middle.servers })
    : AllCounted settings middle now none host := by
  rw [same]
  refine ⟨?_, counted.deployments, counted.databases⟩
  intro row stored here _ overlooked
  obtain ⟨known, other⟩ := others row stored here
  exact counted.servers row known here (fun placed => other (Option.some.inj placed)) overlooked

theorem chooseStartNode_places {tests : PortTests} {serverId : Uuid}
    (chosen : chooseStartNode settings now tests serverId db = (after, some nodeId))
    : Places settings now (some serverId) db after nodeId := by
  unfold chooseStartNode at chosen
  cases found : db.servers.get? serverId with
  | none =>
      rw [found] at chosen
      cases chosen
  | some server =>
      obtain ⟨stored, rfl⟩ := Table.get?_some found
      rw [found] at chosen
      dsimp only at chosen
      -- the server is off its node before the choice, with or without a commit
      have placing {middle : Database} {row : Server} (known : row ∈ middle.servers.rows)
          (same : row.id = server.id) (homeless : row.nodeId = none)
          (nodes : middle.nodes = db.nodes)
          (counted : ∀ host, AllCounted settings db now (some server.id) host
            → AllCounted settings middle now none host)
          {next : Database} {assigned : Bool}
          (done : assignBestNode settings now tests server middle = .ok (next, assigned))
          (result : (next, if assigned then (next.servers.get? server.id).bind Server.nodeId
            else none) = (after, some nodeId))
          : Places settings now (some server.id) db after nodeId := by
        cases assigned with
        | false => cases result
        | true =>
            obtain ⟨node, on, assigns⟩ := assignBestNode_assigns known same homeless done
            rw [if_pos rfl, on] at result
            cases result
            exact ⟨middle, _, node, rfl, nodes, counted, assigns⟩
      split at chosen
      · cases chosen
      · cases chosen
      · rename_i middle check moving checked
        split at chosen
        · cases chosen
        · rename_i next assigned done
          rcases checkStartNode_ok checked with
            ⟨_, stays, _⟩ | ⟨rfl, _, homeless⟩ | ⟨rfl, _⟩
          · exact absurd stays moving
          · refine placing stored rfl homeless rfl ?_ done chosen
            intro host counted
            refine counted.placing ?_ rfl
            intro row known here
            refine ⟨known, ?_⟩
            intro same
            rw [middle.servers.eq_of_key_eq known stored same, homeless] at here
            cases here
          · have left : detachServer.apply server
                ∈ (changeServer server.id detachServer db).servers.rows :=
              Table.mem_modify _ _ stored
            refine placing left rfl rfl rfl ?_ done chosen
            intro host counted
            refine counted.placing ?_ rfl
            intro row written here
            obtain ⟨old, known, rfl⟩ := List.mem_map.mp written
            by_cases same : old.id = server.id
            · rw [Change.at_same _ same] at here
              cases here
            · rw [Change.at_other _ same]
              exact ⟨known, same⟩

theorem WorkloadStep.places {serversDir : String} {decision : Decision}
    (taken : WorkloadStep settings serversDir db decision after)
    (assigned : decision.assigned = some nodeId)
    : Places settings decision.now decision.action.server? db after nodeId := by
  obtain ⟨action, now, tests, choice⟩ := decision
  subst assigned
  unfold WorkloadStep at taken
  have quiet {Error : Type} {outcome : Except Error Database}
      (done : unplaced db outcome = (after, some nodeId)) : False := by
    cases outcome <;> cases done
  have granted {outcome : Except HttpError Placed}
      (done : orRefused db outcome = (after, some nodeId))
      : outcome = .ok (after, some nodeId) := by
    cases outcome with
    | error refusal => cases done
    | ok placed => exact congrArg Except.ok done
  cases action with
  | chooseStartNode serverId => exact chooseStartNode_places taken
  | createDeployment user payload => exact createDeployment_places (granted taken)
  | restartDeployment user deploymentId => exact restartDeployment_places taken
  | assignDeploymentNode deploymentId => exact assignDeploymentNode_places taken
  | createDatabase user payload credentials => exact createDatabase_places (granted taken)
  | assignDatabaseNode databaseId => exact assignDatabaseNode_places taken
  | deployTemplate user templateId payload credentials =>
      exact deployTemplate_places (granted taken)
  | prepareStart server lookedUp => exact (quiet taken).elim
  | stopDeployment user deploymentId => exact (quiet taken).elim
  | startDatabase user databaseId => exact (quiet taken).elim
  | restartDatabase user databaseId => exact (quiet taken).elim
  | stopDatabase user databaseId => exact (quiet taken).elim
  | finishStart serverId => cases taken
  | stopServer serverId => cases taken
  | refreshRam nodeId => cases taken
  | buildDeployment deploymentId => cases taken
  | finishDeployment deploymentId started => cases taken
  | finishDatabase databaseId started => cases taken

theorem CountedStep.fits {serversDir : String} {decision : Decision}
    (step : CountedStep settings serversDir db decision after)
    (assigned : decision.assigned = some nodeId)
    : FitsOn settings after decision.now nodeId := by
  obtain ⟨taken, counted⟩ := step
  obtain ⟨middle, requiredRamMb, node, rfl, nodes, fewer, assigns⟩ := taken.places assigned
  obtain ⟨stored, candidate, _⟩ := selectBestNode_room assigns.chosen
  rw [nodes] at stored
  exact assigns.fits (fewer node.id
    (counted (by rw [assigned]; exact Option.some_ne_none _) node stored candidate))

end Operations

/-- Whenever a run assigns a workload to a node, all active workloads of the node have room on it
afterwards, if each assignment finds the other active workloads of the candidates counted.
-/
theorem counted_placements_fit {settings : Settings} {serversDir : String}
    {start finish : Database} {earlier later : List Decision} {decision : Decision}
    {nodeId : Uuid}
    (run : Run (CountedStep settings serversDir) start (earlier ++ decision :: later) finish)
    (assigned : decision.assigned = some nodeId)
    : ∃ after, Run (WorkloadStep settings serversDir) start (earlier ++ [decision]) after
      ∧ Run (WorkloadStep settings serversDir) after later finish
      ∧ FitsOn settings after decision.now nodeId := by
  obtain ⟨before, first, rest⟩ := run.split earlier
  obtain ⟨after, step, last⟩ := rest.first
  have plain {one other : Database} {decisions : List Decision}
      (run : Run (CountedStep settings serversDir) one decisions other)
      : Run (WorkloadStep settings serversDir) one decisions other := by
    have renamed := run.map id (fun _ _ _ step => step.1)
    rwa [List.map_id] at renamed
  exact ⟨after, (plain first).next step.1, plain last, step.fits assigned⟩

def emptyNodeDatabase : Database where
  projects := ⟨[{ id := 0, ownerId := 7 }], by simp⟩
  nodes := (hostingDatabase .suspended).nodes

def projectOwner : User where
  id := 7
  email := "owner@example.com"
  authHash := ""
  nickname := "owner"

/-- An action at a fixed time, with the node that it assigns. -/
def decisionOn (db : Database) (action : WorkloadAction) : Decision where
  action := action
  now := 0
  assigned := (performWorkload {} "servers" 0 {} db action).2

def afterAction (db : Database) (action : WorkloadAction) : Database :=
  (performWorkload {} "servers" 0 {} db action).1

theorem workloadStep_after (db : Database) (action : WorkloadAction)
    : WorkloadStep {} "servers" db (decisionOn db action) (afterAction db action) :=
  rfl

def smallDeployment : WorkloadAction :=
  .createDeployment projectOwner { ramLimitMb := ⟨1024, by simp⟩ }

/-- A deployment is created and started, and another one joins it on the node. -/
theorem second_deployment_fits
    : ∃ started joined,
      Run (WorkloadStep {} "servers") emptyNodeDatabase
          ([decisionOn emptyNodeDatabase smallDeployment,
            decisionOn (afterAction emptyNodeDatabase smallDeployment) (.finishDeployment 0 true)]
            ++ [decisionOn started smallDeployment])
          joined
        ∧ FitsOn {} joined 0 1 := by
  let created := afterAction emptyNodeDatabase smallDeployment
  let started := afterAction created (.finishDeployment 0 true)
  have bare (nodeId : Uuid) : AllCounted {} emptyNodeDatabase 0 none nodeId := by
    refine ⟨?_, ?_, ?_⟩ <;> intro row stored <;> cases stored
  have counted (nodeId : Uuid) : AllCounted {} started 0 none nodeId := by
    have running : ∀ row ∈ started.appDeployments.rows, row.state ≠ .created := by
      decide +kernel
    refine ⟨?_, fun row stored _ state => absurd state (running row stored), ?_⟩ <;>
      intro row stored <;> cases stored
  have assigned : (decisionOn started smallDeployment).assigned = some 1 := by decide +kernel
  have run : Run (CountedStep {} "servers") emptyNodeDatabase
      ([decisionOn emptyNodeDatabase smallDeployment,
        decisionOn created (.finishDeployment 0 true)] ++ [decisionOn started smallDeployment])
      (afterAction started smallDeployment) :=
    ((Run.done.next ⟨workloadStep_after _ _, fun _ node _ _ => bare node.id⟩).next
      ⟨workloadStep_after _ _, fun placed => absurd rfl placed⟩).next
      ⟨workloadStep_after _ _, fun _ node _ _ => counted node.id⟩
  obtain ⟨joined, steps, _, fits⟩ := counted_placements_fit run assigned
  exact ⟨started, joined, steps, fits⟩

def largeDatabase : WorkloadAction :=
  .createDatabase projectOwner
    { projectId := 0, engine := .postgresql, ramLimitMb := ⟨4096, by simp⟩ }
    { dbName := "shop_db", dbUsername := "shop", dbPassword := "secret" }

/-- A running database instance that takes the whole node is overlooked by the next placement. -/
theorem second_database_overcommits
    : (∀ node ∈ emptyNodeDatabase.nodes.rows, FitsOn {} emptyNodeDatabase 0 node.id)
      ∧ ∃ started joined,
        Run (WorkloadStep {} "servers") emptyNodeDatabase
          [decisionOn emptyNodeDatabase largeDatabase,
            decisionOn (afterAction emptyNodeDatabase largeDatabase) (.finishDatabase 0 true),
            decisionOn started largeDatabase]
          joined
        ∧ (decisionOn started largeDatabase).assigned = some 1
        ∧ ¬ FitsOn {} joined 0 1 := by
  let created := afterAction emptyNodeDatabase largeDatabase
  let started := afterAction created (.finishDatabase 0 true)
  refine ⟨by decide +kernel, started, afterAction started largeDatabase, ?_, by decide +kernel,
    by decide +kernel⟩
  exact ((Run.done.next (workloadStep_after _ _)).next (workloadStep_after created _)).next
    (workloadStep_after started _)

end Blockhost
