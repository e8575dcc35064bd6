import Blockhost.Api.PaddleDeliveries
import Blockhost.Api.ServerPlacement
import Blockhost.Runtime.Rollouts
import Blockhost.Services.Provisioning
import Mathlib

/-! The background tasks of the Paddle webhook. Each provisions a resource, running or not, and
sends commands to its runtime.
-/

namespace Blockhost.Payments

open Library
open DockerRuntime (Calls Container Docker DockerM StartRequest)

-- Runtimes

inductive RuntimeCommand where
  | stopUnit (serverId : Uuid)
  | runUnit (serverId : Uuid)
  | stopContainer (id : Nat)
  | removeContainer (id : Nat)
deriving DecidableEq, Repr

/-- What the systemd runtime finds on its host: its tools, the executable, a pipe and a JDK, and
whether the server answers in time.
-/
structure Host where
  systemdRun : Bool := true
  executable : Bool := true
  systemctl : Bool := true
  equipped : Bool := true
  ready : Bool := true

def Host.stopServer (host : Host) (serverId : Uuid) : List RuntimeCommand :=
  if host.systemctl then [.stopUnit serverId] else []

/-- `SystemdRuntime.start_server`, with its commands and whether it succeeds. -/
def Host.startServer (host : Host) (serverId : Uuid) : List RuntimeCommand × Bool :=
  if !host.systemdRun || !host.executable then ([], false)
  else if !host.equipped then (host.stopServer serverId, false)
  else (host.stopServer serverId ++ [.runUnit serverId], host.ready)

/-- `start_deployment` up to the removal of the old containers: these, and the new one with its
port.
-/
def confirmRollout (calls : Calls) (request : StartRequest)
    : DockerM (List Container × Nat × Option Nat) := do
  let prepared ← DockerRuntime.prepare calls request
  let id ← DockerRuntime.runContainer calls (DockerRuntime.runKwargs request prepared.2) request.now
  let hostPort ← DockerRuntime.confirmRunning calls request id
  return (prepared.1, id, hostPort)

def replacedContainers (calls : Calls) (request : StartRequest) (docker : Docker)
    : List Container :=
  match confirmRollout calls request docker with
  | .ok (oldContainers, _) _ => oldContainers
  | .error _ _ => []

def passesOver : DockerRuntime.Outcome → Bool
  | .passes => true
  | .raises failure _ => failure.isApiError

def removals (calls : Calls) : List Container → List RuntimeCommand
  | [] => []
  | old :: rest =>
      .stopContainer old.id
      :: (if passesOver (calls.stop old.id) then
          .removeContainer old.id
          :: (if passesOver (calls.remove old.id) then removals calls rest else [])
        else [])

-- Provisioning

/-- What a task meets outside the database: the time, what `Path.resolve` makes of a path,
whether the version and the JDK of a server are found, the node to which the router sends it,
whether the image of a repository is built, how the call of the agent fares, and what its runtime
meets.
-/
structure TaskInputs where
  now : Instant
  resolve : String → List String := fun path => (path.splitOn "/").filter (· ≠ "")
  lookedUp : Bool := true
  route : Option Uuid := none
  built : Bool := true
  arrives : Bool := true
  prepared : Bool := true
  answered : Bool := true
  host : Host := {}
  calls : Calls
  container : StartRequest

/-- The rows, and the containers of each node. -/
structure Plant where
  db : Database
  containers : Uuid → Docker := fun _ => Table.empty

/-- The runtime's part of a start. The local runtime fails, since it is given no executable. -/
def callRuntime (inputs : TaskInputs) (serverId : Uuid) : List RuntimeCommand × Bool :=
  if inputs.route.isNone || !inputs.arrives || !inputs.prepared then ([], false)
  else
    let started := inputs.host.startServer serverId
    (started.1, started.2 && inputs.answered)

def provisioningRoot : String := "/var/lib/blockhost/servers"

/-- `_validate_server_dir`. The task allows one directory, wherever the servers are kept. -/
def validateServerDir (inputs : TaskInputs) (serverDir : String) : Bool :=
  (inputs.resolve provisioningRoot).isPrefixOf (inputs.resolve serverDir)

/-- Whether the launch of a server finds its directory, version and JDK. -/
def looksUp (inputs : TaskInputs) (serverId : Uuid) (db : Database) : Bool :=
  inputs.lookedUp
  && ((db.servers.get? serverId).bind (fun server => server.mcConfig.serverDir)).all
    (validateServerDir inputs)

/-- `_provision_minecraft_server`. After a failure it reads `ServerState.error`, which the
enumeration does not have, and commits nothing.
-/
def provisionMinecraftServer (settings : Settings) (inputs : TaskInputs) (serverId : Uuid)
    (plant : Plant)
    : Plant × List RuntimeCommand :=
  match checkLaunch settings inputs.now (looksUp inputs serverId plant.db) serverId plant.db with
  | .error _ => (plant, [])
  | .ok _ =>
      let called := callRuntime inputs serverId
      if called.2 then
        ({ plant with db := changeServer serverId (markRunning settings) plant.db }, called.1)
      else (plant, called.1)

/-- What the agent asks of its Docker runtime; a database has no health check. -/
def containerRequest (inputs : TaskInputs) (task : ProvisionTask) : StartRequest :=
  { inputs.container with
    deploymentId := uuidText task.2
    healthCheckPath := if task.1 = .databaseInstance then none else inputs.container.healthCheckPath
    isDatabase := task.1 = .databaseInstance }

def startContainer (inputs : TaskInputs) (task : ProvisionTask) (nodeId : Uuid) (plant : Plant)
    : Plant × List RuntimeCommand × Bool :=
  if !inputs.arrives || !inputs.prepared then (plant, [], false)
  else
    let request := containerRequest inputs task
    let docker := plant.containers nodeId
    let commands := removals inputs.calls (replacedContainers inputs.calls request docker)
    match DockerRuntime.startDeployment inputs.calls request docker with
    | .ok _ after =>
        ({ plant with containers := Function.update plant.containers nodeId after }, commands,
          inputs.answered)
    | .error _ after =>
        ({ plant with containers := Function.update plant.containers nodeId after }, commands,
          false)

/-- The part of a provisioning after the choice of a node; `finish` stores its success. -/
def provisionContainer (inputs : TaskInputs) (task : ProvisionTask) (home : Option Uuid)
    (built : Bool) (finish : Bool → Database → Database) (plant : Plant)
    : Plant × List RuntimeCommand :=
  match home with
  | none => (plant, [])
  | some nodeId =>
      if !built then ({ plant with db := finish false plant.db }, [])
      else
        let (after, commands, started) := startContainer inputs task nodeId plant
        ({ after with db := finish started after.db }, commands)

/-- The node of a workload, if it exists. -/
def knownNode (db : Database) (nodeId : Option Uuid) : Option Uuid :=
  nodeId.filter (fun nodeId => (db.nodes.get? nodeId).isSome)

/-- A deployment without a repository has its image. -/
def isBuilt (inputs : TaskInputs) (deploymentId : Uuid) (db : Database) : Bool :=
  inputs.built
  || ((db.appDeployments.get? deploymentId).bind (fun deployment =>
    deployment.githubRepoUrl.filter (· ≠ ""))).isNone

/-- `_provision_app_deployment` -/
def provisionAppDeployment (settings : Settings) (inputs : TaskInputs) (deploymentId : Uuid)
    (plant : Plant)
    : Plant × List RuntimeCommand :=
  let db := (assignDeploymentNode settings inputs.now deploymentId plant.db).1
  let home := (db.appDeployments.get? deploymentId).bind AppDeployment.nodeId
  provisionContainer inputs (.appDeployment, deploymentId) (knownNode db home)
    (isBuilt inputs deploymentId db)
    (fun started => changeDeployment deploymentId (finishDeployment started)) { plant with db }

/-- `_provision_database_instance` -/
def provisionDatabaseInstance (settings : Settings) (inputs : TaskInputs) (databaseId : Uuid)
    (plant : Plant)
    : Plant × List RuntimeCommand :=
  let db := (assignDatabaseNode settings inputs.now databaseId plant.db).1
  let home := (db.databaseInstances.get? databaseId).bind DatabaseInstance.nodeId
  provisionContainer inputs (.databaseInstance, databaseId) (knownNode db home) true
    (fun started => changeDatabase databaseId (finishDatabase started)) { plant with db }

/-- `provision_resource` -/
def provisionResource (settings : Settings) (inputs : TaskInputs)
    : ProvisionTask → Plant → Plant × List RuntimeCommand
  | (.minecraftServer, id) => provisionMinecraftServer settings inputs id
  | (.appDeployment, id) => provisionAppDeployment settings inputs id
  | (.databaseInstance, id) => provisionDatabaseInstance settings inputs id

-- Runs

/-- What the webhook has left to do in the background. -/
structure PaymentWorld where
  plant : Plant
  pending : List ProvisionTask := []

/-- A delivery, or a background task whose turn has come. -/
inductive PaymentStep where
  | deliver (delivery : PaddleDelivery)
  | perform (index : Nat) (inputs : TaskInputs)

end Blockhost.Payments

/-! Which payments interrupt a running resource: those that schedule a provisioning whose start
reaches the runtime.
-/

namespace Blockhost.Payments

open Library
open DockerRuntime (Calls Container Docker DockerM Failure HealthRound Prepared StartRequest
  findContainers given healthAnswer)

variable {settings : Settings} {inputs : TaskInputs} {plant : Plant}

-- What reaches the runtime

/-- Some round of the health check is passed, and the container runs up to there. -/
def passesHealth : List HealthRound → Prop
  | [] => False
  | round :: rounds =>
      round.status = .ok .running ∧ (healthAnswer round.answer = .ok () ∨ passesHealth rounds)

/-- The new container of a rollout is created, has a port to ask for and is found running, and
passes the health check where there is one.
-/
structure Confirmed (calls : Calls) (request : StartRequest) : Prop where
  prepared : Prepared calls request
  started : ∃ status, calls.run = .started status
  settled : calls.settled = .ok .running
  healthy
    : ∃ hostPort, calls.hostPort = .ok hostPort
      ∧ ((given request.healthCheckPath).isSome = true → (hostPort.filter (· ≠ 0)).isSome = true
        → passesHealth calls.rounds)

/-- The start of a server goes through to the stop that comes first in its runtime. -/
structure StopsServer (settings : Settings) (inputs : TaskInputs) (serverId : Uuid)
    (db : Database)
    : Prop where
  launches
    : ∃ server,
      checkLaunch settings inputs.now (looksUp inputs serverId db) serverId db = .ok server
  route : inputs.route.isSome = true
  arrives : inputs.arrives = true
  prepared : inputs.prepared = true
  systemdRun : inputs.host.systemdRun = true
  executable : inputs.host.executable = true
  systemctl : inputs.host.systemctl = true

/-- The start of a container goes through to the removal of old ones. -/
structure ReplacesContainers (inputs : TaskInputs) (task : ProvisionTask) (home : Option Uuid)
    (built : Bool) (containers : Uuid → Docker)
    : Prop where
  built : built = true
  arrives : inputs.arrives = true
  prepared : inputs.prepared = true
  replaces
    : ∃ nodeId, home = some nodeId
      ∧ Confirmed inputs.calls (containerRequest inputs task)
      ∧ findContainers (uuidText task.2) (containers nodeId) ≠ []

def Interrupts (settings : Settings) (inputs : TaskInputs) (plant : Plant) : ProvisionTask → Prop
  | (.minecraftServer, id) => StopsServer settings inputs id plant.db
  | (.appDeployment, id) =>
      let db := (assignDeploymentNode settings inputs.now id plant.db).1
      let home := (db.appDeployments.get? id).bind AppDeployment.nodeId
      ReplacesContainers inputs (.appDeployment, id) (knownNode db home) (isBuilt inputs id db)
        plant.containers
  | (.databaseInstance, id) =>
      let db := (assignDatabaseNode settings inputs.now id plant.db).1
      let home := (db.databaseInstances.get? id).bind DatabaseInstance.nodeId
      ReplacesContainers inputs (.databaseInstance, id) (knownNode db home) true plant.containers

theorem answer_ok {α : Type} {outcome : Except Failure α} {value : α} {docker after : Docker}
    : DockerRuntime.answer outcome docker = .ok value after
      ↔ outcome = .ok value ∧ docker = after := by
  cases outcome with
  | ok found =>
      change EStateM.Result.ok found docker = .ok value after ↔ _
      simp
  | error failure => exact iff_of_false nofun (fun answered => nomatch answered.1)

/-- A step that provisions the resource does not get through to its runtime. -/
def Harmless (settings : Settings) (resource : ProvisionTask) (world : PaymentWorld)
    : PaymentStep → Prop
  | .deliver _ => True
  | .perform index inputs =>
      world.pending[index]? = some resource → ¬ Interrupts settings inputs world.plant resource

variable {world : PaymentWorld} {resource : ProvisionTask} {steps : List PaymentStep}

/-- The resource has an active row that is not expired. -/
def Paid (resource : ProvisionTask) (time : Instant) (db : Database) : Prop :=
  ∃ row ∈ db.subscriptions.rows, row.paysFor resource.1 resource.2 = true
    ∧ row.status = .active ∧ time < row.expiresAt

private def shopRequest : StartRequest where
  deploymentId := uuidText 5
  dockerImage := "shop:1"
  internalPort := 8080
  revisionId := "1"
  now := 0

end Blockhost.Payments
