import Blockhost.Api.Schemas
import Blockhost.Library.Session

/-! The revisions of an app deployment: the requests that add one, and the provisioning runs that
build an image, start a container and record the result. Requests and runs have a session each,
which writes back what it has changed.
-/

namespace Blockhost.Deployments

open Library

/-- The rows of one deployment, to which every query here is restricted, with the revisions in
the order of their commits.
-/
structure Rows where
  deployment : AppDeployment
  revisions : List DeploymentRevision
deriving DecidableEq

def changeRevision (id : Uuid) (change : DeploymentRevision → DeploymentRevision)
    (revisions : List DeploymentRevision)
    : List DeploymentRevision :=
  revisions.map (fun revision => if revision.id = id then change revision else revision)

/-- The revisions that `_deactivate_old_revisions` loads. -/
def activeRevisions (revisions : List DeploymentRevision) : List Uuid :=
  (revisions.filter DeploymentRevision.isActive).map DeploymentRevision.id

/-- The commit of `_deactivate_old_revisions`: the loaded revisions are written. -/
def deactivate (loaded : List Uuid) (revisions : List DeploymentRevision)
    : List DeploymentRevision :=
  revisions.map (fun revision =>
    if revision.id ∈ loaded then { revision with isActive := false } else revision)

/-- A snapshot of an environment for a new revision; an empty one counts as missing. -/
def envSnapshotOf (envVars : EnvVars) : Option EnvVars :=
  if envVars = [] then none else some envVars

-- Requests

inductive Request where
  | deploy
  | setEnv (envVars : EnvVars)
  | deleteEnv (key : String)
  | rollback (revisionId : Option Uuid)
  | push (commitSha : Option String)
deriving DecidableEq, Repr

structure PendingRequest where
  loaded : AppDeployment
  changed : AppDeployment
  deactivated : List Uuid := []
  added : Option DeploymentRevision := none

/-- The revision of a rollback: the requested one, or the last successful one that is not active.
-/
def rollbackTarget (revisions : List DeploymentRevision)
    : Option Uuid → Except HttpError DeploymentRevision
  | some id =>
      match revisions.find? (fun revision => revision.id = id) with
      | none => .error ⟨404, "Revision not found"⟩
      | some revision =>
          if revision.imageTag.getD "" = "" then
            .error ⟨400, "Revision has no image tag to roll back to"⟩
          else .ok revision
  | none =>
      match latest DeploymentRevision.createdAt
          (revisions.filter (fun revision =>
            revision.status = .running && !revision.isActive && revision.imageTag.isSome)) with
      | none => .error ⟨400, "No previous successful revision to roll back to"⟩
      | some revision => .ok revision

def revising (rows : Rows) (changed : AppDeployment) (revision : DeploymentRevision)
    : PendingRequest where
  loaded := rows.deployment
  changed := changed
  deactivated := activeRevisions rows.revisions
  added := some { revision with deploymentId := rows.deployment.id, isActive := true }

/-- `restart_deployment` -/
def restartDeployment (rows : Rows) : PendingRequest :=
  revising rows { rows.deployment with state := .building }
    { id := 0, deploymentId := 0, createdAt := 0, status := .building, trigger := .manual,
      envSnapshot := envSnapshotOf rows.deployment.envVars }

/-- `update_env_vars`, and the last part of `delete_env_var`: a running deployment is deployed
again, any other one only stores the environment.
-/
def updateEnvVars (envVars : EnvVars) (rows : Rows) : PendingRequest :=
  let changed := { rows.deployment with envVars }
  if rows.deployment.state = .running && rows.deployment.nodeId.isSome then
    revising rows { changed with state := .building }
      { id := 0, deploymentId := 0, createdAt := 0, imageTag := some rows.deployment.dockerImage,
        status := .building, trigger := .envChange, envSnapshot := some envVars }
  else { loaded := rows.deployment, changed }

/-- `delete_env_var` -/
def deleteEnvVar (key : String) (rows : Rows) : Except HttpError PendingRequest :=
  if rows.deployment.envVars.any (fun entry => entry.1 = key) then
    .ok (updateEnvVars (rows.deployment.envVars.filter (fun entry => entry.1 ≠ key)) rows)
  else .error ⟨404, "Env var '" ++ key ++ "' not found"⟩

/-- The environment after a rollback: the snapshot, unless it is missing or empty. -/
def rollbackEnv (target : DeploymentRevision) (envVars : EnvVars) : EnvVars :=
  match target.envSnapshot with
  | none | some [] => envVars
  | some snapshot => snapshot

/-- `rollback_deployment` to a chosen revision. -/
def rollbackTo (target : DeploymentRevision) (rows : Rows) : PendingRequest :=
  let envVars := rollbackEnv target rows.deployment.envVars
  revising rows
    { rows.deployment with
      dockerImage := target.imageTag.getD ""
      state := .building
      envVars }
    { id := 0, deploymentId := 0, createdAt := 0, imageTag := target.imageTag,
      status := .building, trigger := .rollback, envSnapshot := envSnapshotOf envVars }

/-- `github_webhook` on an accepted push. -/
def githubWebhook (commitSha : Option String) (rows : Rows) : PendingRequest :=
  revising rows { rows.deployment with state := .created }
    { id := 0, deploymentId := 0, createdAt := 0, commitSha, status := .created,
      trigger := .githubPush }

def openRequest (rows : Rows) : Request → Except HttpError PendingRequest
  | .deploy => .ok (restartDeployment rows)
  | .setEnv envVars => .ok (updateEnvVars envVars rows)
  | .deleteEnv key => deleteEnvVar key rows
  | .rollback revisionId =>
      (rollbackTarget rows.revisions revisionId).map (fun target => rollbackTo target rows)
  | .push commitSha => .ok (githubWebhook commitSha rows)

def commitRequest (pending : PendingRequest) (id : Uuid) (now : Instant) (rows : Rows) : Rows where
  deployment :=
    { rows.deployment with
      state := written (some pending.loaded.state) pending.changed.state rows.deployment.state
      dockerImage :=
        written (some pending.loaded.dockerImage) pending.changed.dockerImage
          rows.deployment.dockerImage
      envVars :=
        written (some pending.loaded.envVars) pending.changed.envVars rows.deployment.envVars }
  revisions :=
    deactivate pending.deactivated rows.revisions
      ++ (pending.added.map (fun revision => { revision with id, createdAt := now })).toList

-- Provisioning runs

inductive RunStage where
  | building
  | ready
  | started
deriving DecidableEq, Repr

/-- The session of `_provision_app_deployment`: the revision that was the latest one at the
beginning, and the attributes that have not expired.
-/
structure ProvisioningRun where
  revision : Option Uuid
  stage : RunStage
  deployment : Option AppDeployment
  isActive : Option Bool
deriving DecidableEq, Repr

/-- `_latest_revision` -/
def latestRevision (rows : Rows) : Option DeploymentRevision :=
  latest DeploymentRevision.createdAt rows.revisions

def assignNode (node : Option Uuid) (rows : Rows) : Rows :=
  match rows.deployment.nodeId, node with
  | none, some nodeId =>
      { rows with
        deployment := { rows.deployment with nodeId := some nodeId, state := .building } }
  | _, _ => rows

/-- A run after its choice of a node: only a deployment from a repository is built. -/
def openRun (rows : Rows) : ProvisioningRun where
  revision := (latestRevision rows).map DeploymentRevision.id
  stage := if rows.deployment.githubRepoUrl.getD "" = "" then .ready else .building
  deployment := some rows.deployment
  isActive := (latestRevision rows).map DeploymentRevision.isActive

/-- After a commit all attributes are loaded again. -/
def ProvisioningRun.expire (run : ProvisioningRun) : ProvisioningRun :=
  { run with deployment := none, isActive := none }

/-- The attributes of the deployment, loaded again if they have expired. -/
def ProvisioningRun.reload (rows : Rows) (run : ProvisioningRun) : AppDeployment :=
  run.deployment.getD rows.deployment

/-- The result of a build that has succeeded. -/
def recordBuild (imageTag : String) (run : ProvisioningRun) (rows : Rows) : Rows where
  deployment := { rows.deployment with dockerImage := imageTag }
  revisions :=
    match run.revision with
    | none => rows.revisions
    | some id =>
        changeRevision id
          (fun revision => { revision with imageTag := some imageTag, status := .building })
          rows.revisions

/-- The answer of the agent to a start. -/
structure StartedContainer where
  containerId : Option String
  hostPort : Option Int
deriving DecidableEq, Repr

def recordStart (container : StartedContainer) (now : Instant) (run : ProvisioningRun)
    (rows : Rows)
    : Rows where
  deployment :=
    { rows.deployment with
      containerId := container.containerId
      hostPort := container.hostPort
      state := .running
      errorMessage := none
      healthStatus := .unknown
      restartCount := 0 }
  revisions :=
    match run.revision with
    | none => rows.revisions
    | some id =>
        changeRevision id
          (fun revision =>
            { revision with
              status := .running
              imageTag := some (run.reload rows).dockerImage
              deployedAt := some now
              isActive := written run.isActive true revision.isActive })
          rows.revisions

/-- The end of a run that has failed: the error goes to the revision that is the latest now. -/
def recordFailure (message : String) (rows : Rows) : Rows where
  deployment := { rows.deployment with state := .error, errorMessage := some message }
  revisions :=
    match latestRevision rows with
    | none => rows.revisions
    | some latest =>
        changeRevision latest.id
          (fun revision => { revision with status := .error, errorMessage := some message })
          rows.revisions

end Blockhost.Deployments
