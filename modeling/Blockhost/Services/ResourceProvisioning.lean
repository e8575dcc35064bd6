import Blockhost.Api.Deployments
import Blockhost.Api.ServerPlacement
import Blockhost.Library.Faults
import Blockhost.Services.Provisioning

/-! The provisioning of a paid resource in the background. Each kind of resource has its own work
and its own handler, which share one database session: a commit that fails leaves it unusable, a
query that fails may do so.
-/

namespace Blockhost.ResourceProvisioning

open Library
open Deployments (Rows StartedContainer)

/-- How a part of an attempt ends early: it raises, or it waits for a build without an end. -/
inductive Failure where
  | raised (message : String)
  | waiting
deriving DecidableEq, Repr

/-- What the agent answers to a poll of a build. Any other status is waited for. -/
inductive BuildStatus where
  | success (imageTag : Option String)
  | error (text : Option String)
  | unknown
  | other
deriving DecidableEq, Repr

inductive Commit where
  | assignNode (nodeId : Uuid)
  | markBuilding
  | recordBuild (imageTag : String)
  | recordBuildError (message : String)
  | recordStart
  | recordFailure (message : String)
deriving DecidableEq, Repr

/-- The steps of an attempt that may raise: queries, among them the loads of attributes that a
commit has made expire, commits, and calls of the agent and of other services. The last two
always end it.
-/
inductive Step where
  | loadRow
  | selectNode
  | loadNode
  | latestRevision
  | failureRevision
  | loadDomains
  | checkLaunch
  | reload (place : Commit)
  | commit (place : Commit)
  | requestBuild
  | poll (round : Nat)
  | startContainer
  | attachListener
  | giveUp (message : String)
  | wait
deriving DecidableEq, Repr

def Step.isQuery : Step → Bool
  | .loadRow | .selectNode | .loadNode | .latestRevision | .failureRevision | .loadDomains
  | .checkLaunch | .reload _ => true
  | _ => false

def Step.isCommit : Step → Bool
  | .commit _ => true
  | _ => false

/-- One attempt, with what its steps raise and what the agent answers. -/
structure Attempt where
  settings : Settings
  now : Instant
  db : Database
  runtimeDriver : String := "systemd"
  /-- The directory, the version and the JDK of a server are found. -/
  lookedUp : Bool := true
  builds : List BuildStatus := []
  container : StartedContainer := ⟨none, none⟩
  raises : Step → Option String := fun _ => none
  /-- A query that raises leaves the session unusable. -/
  spoils : Step → Bool := fun _ => false

namespace Attempt

def outcome (attempt : Attempt) : Step → Option Failure
  | .giveUp message => some (.raised message)
  | .wait => some .waiting
  | step => (attempt.raises step).map .raised

/-- A step that leaves the session unusable when it raises. -/
def breaksSession (attempt : Attempt) (step : Step) : Bool :=
  step.isCommit || (step.isQuery && attempt.spoils step)

end Attempt

/-- What a session in use raises after a commit that failed. -/
def pendingRollback : Failure :=
  .raised
    "This Session's transaction has been rolled back due to a previous exception during flush."

section Steps

variable {Data : Type}

abbrev ProvisionM (Data : Type) := EStateM Failure (UnitOfWork Data)

def query (attempt : Attempt) (step : Step) : ProvisionM Data Unit := fun work =>
  if work.usable then
    match attempt.outcome step with
    | none => .ok () work
    | some failure =>
        .error failure (if attempt.breaksSession step then work.spoil else work)
  else .error pendingRollback work

def store (attempt : Attempt) (stores : Commit → Data → Data) (place : Commit)
    : ProvisionM Data Unit :=
  fun work =>
    if work.usable then
      match attempt.outcome (.commit place) with
      | none => .ok () (work.change (stores place)).flush
      | some failure => .error failure work.spoil
    else .error pendingRollback work

def call (attempt : Attempt) (step : Step) : ProvisionM Data Unit :=
  Library.attempt attempt.outcome step id

/-- A resource without a node gets one; an assigned node has to be there. -/
def placeWorkload (attempt : Attempt) (stores : Commit → Data → Data) (nodeId : Option Uuid)
    (ramLimitMb : Int)
    : ProvisionM Data Unit :=
  match nodeId with
  | none => do
      query attempt .selectNode
      match selectBestNode attempt.settings attempt.db attempt.now ramLimitMb with
      | none => throw (.raised "No available nodes with sufficient capacity")
      | some node => do
          store attempt stores (.assignNode node.id)
          query attempt (.reload (.assignNode node.id))
  | some nodeId => do
      query attempt .loadNode
      if (attempt.db.nodes.get? nodeId).isNone then
        throw (.raised ("Assigned node " ++ uuidText nodeId ++ " no longer exists"))
      else pure ()

/-- `try` and `except Exception` around the work of an attempt, which may also not return. -/
def guarded (work : ProvisionM Data Unit) (handler : String → ProvisionM Data Unit)
    : ProvisionM Data Unit :=
  tryCatch work (fun failure =>
    match failure with
    | .raised message => handler message
    | .waiting => throw .waiting)

end Steps

-- Minecraft servers

def getServerLifecycleOrchestrator {Data : Type} (attempt : Attempt) : ProvisionM Data Unit :=
  if attempt.runtimeDriver = "systemd" then pure ()
  else
    throw (.raised ("Unsupported Bedrock runtime driver: " ++ attempt.runtimeDriver
      ++ ". Only 'systemd' is supported."))

def serverStores (attempt : Attempt) : Commit → Server → Server
  | .recordStart => (markRunning attempt.settings).apply
  | _ => id

/-- `start_server` of the lifecycle and its commit. -/
def startServer (attempt : Attempt) (server : Server) : ProvisionM Server Unit := do
  query attempt .checkLaunch
  match checkLaunch attempt.settings attempt.now attempt.lookedUp server.id attempt.db with
  | .error _ => throw (.raised "the checks of start_server")
  | .ok _ => do
      call attempt .startContainer
      call attempt .attachListener
      store attempt (serverStores attempt) .recordStart

/-- The handler reads a state that the enumeration of server states does not have. -/
def provisionMinecraftServer (attempt : Attempt) (server : Server) : ProvisionM Server Unit := do
  query attempt .loadRow
  getServerLifecycleOrchestrator attempt
  guarded (startServer attempt server)
    (fun _ => throw (.raised "type object 'ServerState' has no attribute 'error'"))

-- App deployments

/-- The revision that an attempt works on is the latest one when the node is chosen. -/
def revisionOf (rows : Rows) : Option Uuid :=
  (Deployments.latestRevision rows).map DeploymentRevision.id

/-- The session of an attempt, whose last commit has made its attributes expire. -/
def sessionOf (rows : Rows) : Deployments.ProvisioningRun where
  revision := revisionOf rows
  stage := .started
  deployment := none
  isActive := none

/-- The failure of a build goes to the revision first. -/
def recordBuildError (message : String) (revision : Option Uuid) (rows : Rows) : Rows :=
  match revision with
  | none => rows
  | some id =>
      { rows with
        revisions :=
          Deployments.changeRevision id
            (fun revision => { revision with errorMessage := some message }) rows.revisions }

def deploymentStores (attempt : Attempt) (rows : Rows) : Commit → Rows → Rows
  | .assignNode nodeId => Deployments.assignNode (some nodeId)
  | .markBuilding => fun current =>
      { current with deployment := { current.deployment with state := .building } }
  | .recordBuild imageTag => Deployments.recordBuild imageTag (sessionOf rows)
  | .recordBuildError message => recordBuildError message (revisionOf rows)
  | .recordStart => Deployments.recordStart attempt.container attempt.now (sessionOf rows)
  | .recordFailure message => Deployments.recordFailure message

/-- A deployment that is polled for is shown as building. -/
def ensureBuilding (attempt : Attempt) (rows : Rows) : ProvisionM Rows Unit := fun work =>
  if work.current.deployment.state = .building then .ok () work
  else
    (do
      store attempt (deploymentStores attempt rows) .markBuilding
      query attempt (.reload .markBuilding)) work

def buildError (text : Option String) : String :=
  if text.getD "" = "" then "GitHub build failed on the agent. Check agent logs."
  else text.getD ""

def concludeBuild (attempt : Attempt) (rows : Rows) : BuildStatus → ProvisionM Rows Unit
  | .success imageTag =>
      if imageTag.getD "" = "" then pure ()
      else do
        store attempt (deploymentStores attempt rows) (.recordBuild (imageTag.getD ""))
        query attempt (.reload (.recordBuild (imageTag.getD "")))
  | .error text =>
      if (revisionOf rows).isSome then do
        store attempt (deploymentStores attempt rows) (.recordBuildError (buildError text))
        throw (.raised (buildError text))
      else throw (.raised (buildError text))
  | .unknown => throw (.raised "GitHub build status unknown.")
  | .other => pure ()

def pollBuild (attempt : Attempt) (rows : Rows) : Nat → List BuildStatus → ProvisionM Rows Unit
  | _, [] => do
      ensureBuilding attempt rows
      throw .waiting
  | round, .other :: later => do
      ensureBuilding attempt rows
      call attempt (.poll round)
      pollBuild attempt rows (round + 1) later
  | round, status :: _ => do
      ensureBuilding attempt rows
      call attempt (.poll round)
      concludeBuild attempt rows status

/-- Only a deployment from a repository is built. -/
def buildFromGithub (attempt : Attempt) (rows : Rows) : ProvisionM Rows Unit :=
  if rows.deployment.githubRepoUrl.getD "" = "" then pure ()
  else do
    call attempt .requestBuild
    pollBuild attempt rows 0 attempt.builds

/-- The routes of a running deployment are registered without failing, but their domains have to
be loaded.
-/
def runDeployment (attempt : Attempt) (rows : Rows) : ProvisionM Rows Unit := do
  placeWorkload attempt (deploymentStores attempt rows) rows.deployment.nodeId
    rows.deployment.ramLimitMb
  query attempt .latestRevision
  buildFromGithub attempt rows
  call attempt .startContainer
  store attempt (deploymentStores attempt rows) .recordStart
  query attempt (.reload .recordStart)
  query attempt .loadDomains

/-- The handler looks for the latest revision before it commits. -/
def recordDeploymentFailure (attempt : Attempt) (rows : Rows) (message : String)
    : ProvisionM Rows Unit := do
  query attempt .failureRevision
  store attempt (deploymentStores attempt rows) (.recordFailure message)

def provisionAppDeployment (attempt : Attempt) (rows : Rows) : ProvisionM Rows Unit := do
  query attempt .loadRow
  guarded (runDeployment attempt rows) (recordDeploymentFailure attempt rows)

-- Databases

def databaseStores : Commit → DatabaseInstance → DatabaseInstance
  | .assignNode nodeId => (buildDatabaseOn nodeId).apply
  | .recordStart => (setDatabaseState .running).apply
  | .recordFailure _ => (setDatabaseState .error).apply
  | _ => id

def runDatabase (attempt : Attempt) (database : DatabaseInstance)
    : ProvisionM DatabaseInstance Unit := do
  placeWorkload attempt databaseStores database.nodeId database.ramLimitMb
  call attempt .startContainer
  store attempt databaseStores .recordStart
  query attempt (.reload .recordStart)

/-- A database has no column for the text of a failure. -/
def provisionDatabaseInstance (attempt : Attempt) (database : DatabaseInstance)
    : ProvisionM DatabaseInstance Unit := do
  query attempt .loadRow
  guarded (runDatabase attempt database) (fun message =>
    store attempt databaseStores (.recordFailure message))

-- Ends of attempts

/-- What `provision_resource` leaves in the database, once it returns: it swallows what is raised
and closes the session.
-/
def provisionResource {Data : Type} (program : ProvisionM Data Unit) (stored : Data)
    : Option Data :=
  match program { committed := stored } with
  | .error .waiting _ => none
  | .error (.raised _) work | .ok _ work => some work.committed

/-- An attempt returns; it leaves its resource running when its work succeeds, and with the
failure when that raises.
-/
def Concludes {Data : Type} (program work : ProvisionM Data Unit) (running : Data → Prop)
    (failed : String → Data → Prop) (stored : Data)
    : Prop :=
  match work { committed := stored } with
  | .ok _ _ => ∃ left, provisionResource program stored = some left ∧ running left
  | .error (.raised message) _ =>
      ∃ left, provisionResource program stored = some left ∧ failed message left
  | .error .waiting _ => False

/-- The state of a deployment, with the failure in its row and in its latest revision. -/
structure FailedDeployment (message : String) (rows : Rows) : Prop where
  state : rows.deployment.state = .error
  recorded : rows.deployment.errorMessage = some message
  revision
    : ∀ revision, Deployments.latestRevision rows = some revision
      → revision.status = .error ∧ revision.errorMessage = some message

def FailedServer (_message : String) (_server : Server) : Prop := False

/-- The resource of an attempt, when it is stored, ends as it should. -/
def AttemptConcludes (attempt : Attempt) (revisions : List DeploymentRevision) (id : Uuid)
    : ResourceType → Prop
  | .minecraftServer =>
      ∀ server, attempt.db.servers.get? id = some server
      → Concludes (provisionMinecraftServer attempt server)
          (do query attempt .loadRow; getServerLifecycleOrchestrator attempt
              startServer attempt server)
          (fun left => left.state = .running) FailedServer server
  | .appDeployment =>
      ∀ deployment, attempt.db.appDeployments.get? id = some deployment
      → Concludes (provisionAppDeployment attempt ⟨deployment, revisions⟩)
          (do query attempt .loadRow; runDeployment attempt ⟨deployment, revisions⟩)
          (fun left => left.deployment.state = .running) FailedDeployment
          ⟨deployment, revisions⟩
  | .databaseInstance =>
      ∀ database, attempt.db.databaseInstances.get? id = some database
      → Concludes (provisionDatabaseInstance attempt database)
          (do query attempt .loadRow; runDatabase attempt database)
          (fun left => left.state = .running) (fun _ left => left.state = .error) database

end Blockhost.ResourceProvisioning
