import Blockhost.Library.Result
import Blockhost.Library.Table
import Mathlib.Data.List.Infix

/-! Containers of deployments. A rollout starts a new container beside the old ones and removes
those at its end; every call of the Docker client on the way may raise.
-/

namespace Blockhost.DockerRuntime

open Library

def containerPrefix : String := "blockhost-deploy"
def labelManaged : String := "blockhost.managed"
def labelDeploymentId : String := "blockhost.deployment_id"
def labelProjectId : String := "blockhost.project_id"
def labelStorageLimit : String := "blockhost.storage_limit_mb"

inductive ContainerStatus where
  | created
  | restarting
  | running
  | removing
  | paused
  | exited
  | dead
deriving DecidableEq, Repr

/-- What a container is created from. -/
structure RunConfig where
  image : String
  name : String
  port : Nat
  bindAddress : String
  environment : List (String × String)
  volumes : List (String × String)
  memLimitMb : Nat
  nanoCpus : Nat
  labels : List (String × String)
  securityOpt : List String := []
  capDrop : List String := []
  capAdd : List String := []
  pidsLimit : Nat
  memSwappiness : Nat := 0
  user : Option String := none
  command : Option (List String)
  network : Option String
  networkAliases : List String
deriving DecidableEq, Repr

structure Container where
  id : Nat
  config : RunConfig
  status : ContainerStatus
  created : Int
deriving DecidableEq, Repr

abbrev Docker := Table Container.id

/-- What a call raises. A missing object is one of the API's errors. -/
inductive Failure where
  | notFound (explanation : String)
  | apiError (explanation : String)
  | runtimeError (message : String)
  | other (message : String)
deriving DecidableEq, Repr

def Failure.isApiError : Failure → Bool
  | .notFound _ | .apiError _ => true
  | _ => false

def Failure.text : Failure → String
  | .notFound text | .apiError text | .runtimeError text | .other text => text

/-- A call that changes a container may raise before or after the daemon did what it asks for. -/
inductive Outcome where
  | passes
  | raises (failure : Failure) (done : Bool)

/-- Running creates a container and starts it. -/
inductive RunOutcome where
  | refused (failure : Failure)
  | unstarted (failure : Failure)
  | started (status : ContainerStatus)

structure HealthRound where
  status : Except Failure ContainerStatus
  logs : Except Failure String
  answer : Except String Nat

/-- What the calls of one rollout meet with. -/
structure Calls where
  list : Option Failure := none
  pull : Option Failure := none
  networkGet : Option Failure := none
  networkCreate : Option Failure := none
  run : RunOutcome := .started .running
  hostPort : Except Failure (Option Nat)
  settled : Except Failure ContainerStatus := .ok .running
  settledLogs : Except Failure String := .ok ""
  rounds : List HealthRound := []
  finalLogs : Except Failure String := .ok ""
  stop : Nat → Outcome := fun _ => .passes
  remove : Nat → Outcome := fun _ => .passes

/-- A rollout, the hexadecimal digits that name it and the time at which it creates a
container.
-/
structure StartRequest where
  deploymentId : String
  dockerImage : String
  internalPort : Nat
  envVars : List (String × String) := []
  volumePath : Option String := none
  volumeMountPath : String := "/data"
  ramLimitMb : Nat := 512
  nanoCpus : Nat := 1000000000
  storageLimitMb : Nat := 5120
  projectId : Option String := none
  healthCheckPath : Option String := none
  command : Option (List String) := none
  networkAliases : List String := []
  isDatabase : Bool := false
  bindAddress : String := "127.0.0.1"
  revisionId : String
  now : Int

structure DeploymentStartResult where
  containerId : Nat
  containerName : String
  hostPort : Nat
deriving DecidableEq, Repr

variable {α : Type}

abbrev DockerM := EStateM Failure Docker

def raiseIf : Option Failure → DockerM Unit
  | none => pure ()
  | some failure => throw failure

def answer : Except Failure α → DockerM α
  | .ok value => pure value
  | .error failure => throw failure

-- Lookups

def isLabelled (deploymentId : String) (container : Container) : Bool :=
  container.config.labels.lookup labelDeploymentId = some deploymentId

def findContainers (deploymentId : String) (docker : Docker) : List Container :=
  docker.rows.filter (isLabelled deploymentId)

/-- The newest running container, or the newest one where none is running. -/
def findActiveContainer (deploymentId : String) (docker : Docker) : Option Container :=
  let containers := findContainers deploymentId docker
  let running := containers.filter (fun container => container.status = .running)
  (latest Container.created running).or (latest Container.created containers)

-- Starting a deployment

def given (text : Option String) : Option String := text.filter (· ≠ "")

def networkName (projectId : String) : String := "blockhost-net-" ++ projectId

def alreadyExists (failure : Failure) : Bool :=
  "already exists".toList <:+: failure.text.toList

def ensureProjectNetwork (calls : Calls) (projectId : String) : DockerM String :=
  match calls.networkGet with
  | none => pure (networkName projectId)
  | some (.notFound _) =>
      match calls.networkCreate with
      | none => pure (networkName projectId)
      | some failure =>
          if failure.isApiError && alreadyExists failure then pure (networkName projectId)
          else throw failure
  | some failure => throw failure

def pullImage (calls : Calls) (image : String) : DockerM Unit :=
  match calls.pull with
  | none => pure ()
  | some failure =>
      if failure.isApiError then
        throw (.runtimeError
          ("Failed to pull Docker image '" ++ image ++ "': " ++ failure.text))
      else throw failure

def containerName (request : StartRequest) : String :=
  containerPrefix ++ "-" ++ request.deploymentId ++ "-" ++ request.revisionId

/-- Containers of applications are hardened, those of databases are not. -/
def runKwargs (request : StartRequest) (network : Option String) : RunConfig where
  image := request.dockerImage
  name := containerName request
  port := request.internalPort
  bindAddress := request.bindAddress
  environment := request.envVars
  volumes := ((given request.volumePath).map (·, request.volumeMountPath)).toList
  memLimitMb := request.ramLimitMb
  nanoCpus := request.nanoCpus
  labels :=
    [(labelManaged, "true"), (labelDeploymentId, request.deploymentId),
      (labelStorageLimit, toString request.storageLimitMb)]
      ++ ((given request.projectId).map (labelProjectId, ·)).toList
  securityOpt := if request.isDatabase then [] else ["no-new-privileges:true"]
  capDrop := if request.isDatabase then [] else ["ALL"]
  capAdd := if request.isDatabase then [] else ["NET_BIND_SERVICE"]
  pidsLimit := if request.isDatabase then 512 else 256
  user := if request.isDatabase then none else some "1000:1000"
  command := request.command.filter (· ≠ [])
  network := network
  networkAliases := if network.isSome then request.networkAliases else []

def newContainer (config : RunConfig) (now : Int) (status : ContainerStatus)
    : Template Container.id where
  make id := { id, config, status, created := now }

/-- The container exists even when it cannot be started. -/
def runContainer (calls : Calls) (config : RunConfig) (now : Int) : DockerM Nat := do
  match calls.run with
  | .refused failure => throw failure
  | .unstarted failure =>
      modify (·.create (newContainer config now .created))
      throw failure
  | .started status =>
      let docker ← get
      set (docker.create (newContainer config now status))
      return docker.freshKey

def setStatus (id : Nat) (status : ContainerStatus) (docker : Docker) : Docker :=
  docker.modify id { apply := fun container => { container with status } }

/-- A reload shows what has become of the container. -/
def reload (id : Nat) (status : Except Failure ContainerStatus) : DockerM ContainerStatus := do
  let status ← answer status
  modify (setStatus id status)
  return status

def mustRun (message : String) (logs : Except Failure String) (status : ContainerStatus)
    : DockerM Unit :=
  if status = .running then pure ()
  else do
    let logs ← answer logs
    throw (.runtimeError (message ++ logs))

/-- The answer of the application, where it passes the check. -/
def healthAnswer : Except String Nat → Except String Unit
  | .error text => .error text
  | .ok code =>
      if 200 ≤ code ∧ code < 500 then .ok () else .error ("HTTP " ++ toString code)

def healthRound (id : Nat) (round : HealthRound) : DockerM (Except String Unit) := do
  let status ← reload id round.status
  mustRun "Container exited before health check passed: " round.logs status
  return healthAnswer round.answer

/-- Rounds until one is passed; the deadline comes after the last one. -/
def waitForHttpHealth (calls : Calls) (id : Nat) (url : String)
    : String → List HealthRound → DockerM Unit
  | lastError, [] => do
      let logs ← answer calls.finalLogs
      throw (.runtimeError
        ("Health check failed at " ++ url ++ ": " ++ lastError ++ "; logs: " ++ logs))
  | _, round :: rounds => do
      match ← healthRound id round with
      | .ok _ => return ()
      | .error text => waitForHttpHealth calls id url text rounds

def healthUrl (request : StartRequest) (hostPort : Nat) (healthCheckPath : String) : String :=
  "http://" ++ request.bindAddress ++ ":" ++ toString hostPort
    ++ (if healthCheckPath.startsWith "/" then healthCheckPath else "/" ++ healthCheckPath)

/-- A container that died at once, or does not pass its health check in time, fails the
rollout.
-/
def confirmRunning (calls : Calls) (request : StartRequest) (id : Nat)
    : DockerM (Option Nat) := do
  let hostPort ← answer calls.hostPort
  let status ← reload id calls.settled
  mustRun "Container failed to start: " calls.settledLogs status
  match given request.healthCheckPath, hostPort.filter (· ≠ 0) with
  | some path, some port =>
      waitForHttpHealth calls id (healthUrl request port path) "" calls.rounds
  | _, _ => pure ()
  return hostPort

/-- Do a change that may raise before or after it happened. -/
def perform (outcome : Outcome) (change : Docker → Docker) : DockerM Unit :=
  match outcome with
  | .passes => modify change
  | .raises failure done => do
      onlyIf done (modify change)
      throw failure

/-- The API's errors are passed over. -/
def passOver (action : DockerM Unit) : DockerM Unit :=
  tryCatch action (fun failure => if failure.isApiError then pure () else throw failure)

def removeOld (calls : Calls) (old : Container) : DockerM Unit := do
  passOver (perform (calls.stop old.id) (setStatus old.id .exited))
  passOver (perform (calls.remove old.id) (fun docker => docker.filter (·.id ≠ old.id)))

/-- What happens before there is a new container: the old ones and the network. -/
def prepare (calls : Calls) (request : StartRequest)
    : DockerM (List Container × Option String) := do
  raiseIf calls.list
  let oldContainers := findContainers request.deploymentId (← get)
  pullImage calls request.dockerImage
  match given request.projectId with
  | none => return (oldContainers, none)
  | some projectId => return (oldContainers, some (← ensureProjectNetwork calls projectId))

/-- The new container, and the end of the old ones once it runs. -/
def rollOut (calls : Calls) (request : StartRequest) (oldContainers : List Container)
    (network : Option String)
    : DockerM DeploymentStartResult := do
  let id ← runContainer calls (runKwargs request network) request.now
  let hostPort ← confirmRunning calls request id
  oldContainers.forM (removeOld calls)
  return {
    containerId := id
    containerName := containerName request
    hostPort := hostPort.getD 0
  }

def startDeployment (calls : Calls) (request : StartRequest)
    : DockerM DeploymentStartResult := do
  let prepared ← prepare calls request
  rollOut calls request prepared.1 prepared.2

end Blockhost.DockerRuntime
