import Blockhost.Api.Schemas
import Blockhost.Database.Identifiers
import Blockhost.Services.NodePlacement

/-! The transactions that create, place, start and stop app deployments and database instances,
each with the node to which it assigns its workload. Revisions, images and routes are left out.
-/

namespace Blockhost

open Library

/-- What a transaction commits, and the node that a workload gets by it. -/
abbrev Placed := Database × Option Uuid

structure CreateDeploymentRequest where
  ramLimitMb : { limit : Int // 128 ≤ limit }
  projectId : Option Uuid := none

structure CreateDatabaseRequest where
  projectId : Uuid
  engine : DatabaseEngine
  ramLimitMb : { limit : Int // 256 ≤ limit }

/-- The names that a new database takes from its request, and its generated password. -/
structure DatabaseCredentials where
  dbName : String
  dbUsername : String
  dbPassword : String

structure TemplateDef where
  id : String
  isDatabase : Bool := false
  engine : DatabaseEngine := .postgresql

def templates : List TemplateDef :=
  [{ id := "redis", isDatabase := true, engine := .redis },
    { id := "postgres", isDatabase := true, engine := .postgresql },
    { id := "mysql", isDatabase := true, engine := .mysql },
    { id := "ghost" },
    { id := "wordpress" }]

structure DeployTemplateRequest where
  projectId : Uuid
  ramLimitMb : Int := 512

def changeDeployment (deploymentId : Uuid) (change : Change AppDeployment.id) (db : Database)
    : Database :=
  { db with appDeployments := db.appDeployments.modify deploymentId change }

def changeDatabase (databaseId : Uuid) (change : Change DatabaseInstance.id) (db : Database)
    : Database :=
  { db with databaseInstances := db.databaseInstances.modify databaseId change }

def setDeploymentState (state : DeploymentState) : Change AppDeployment.id where
  apply deployment := { deployment with state }

def setDatabaseState (state : DeploymentState) : Change DatabaseInstance.id where
  apply database := { database with state }

/-- A deployment is being built on its new node. -/
def buildDeploymentOn (nodeId : Uuid) : Change AppDeployment.id where
  apply deployment := { deployment with nodeId := some nodeId, state := .building }

def buildDatabaseOn (nodeId : Uuid) : Change DatabaseInstance.id where
  apply database := { database with nodeId := some nodeId, state := .building }

def moveDeployment (nodeId : Uuid) : Change AppDeployment.id where
  apply deployment := { deployment with nodeId := some nodeId }

def nodeForWorkload (settings : Settings) (now : Instant) (ramLimitMb : Int) (db : Database)
    : Except HttpError Node :=
  match selectBestNode settings db now ramLimitMb with
  | none => .error ⟨503, "No capacity available"⟩
  | some node => .ok node

-- App deployments

/-- The row of a new deployment, below a directory of the agent. -/
def newDeployment (directory : String) (user : User) (projectId : Option Uuid)
    (ramLimitMb : Int) (nodeId : Uuid)
    : Template AppDeployment.id where
  make id :=
    { id, ownerId := user.id, nodeId := some nodeId, projectId,
      volumePath := directory ++ uuidText id, ramLimitMb }

def createDeployment (settings : Settings) (now : Instant) (user : User)
    (payload : CreateDeploymentRequest) (db : Database)
    : Except HttpError Placed := do
  let node ← nodeForWorkload settings now payload.ramLimitMb db
  let row :=
    newDeployment "/opt/blockhost/agent_storage/deployments/" user payload.projectId
      payload.ramLimitMb node.id
  return ({ db with appDeployments := db.appDeployments.create row }, some node.id)

def getDeployment (db : Database) (deploymentId : Uuid) (user : User)
    : Except HttpError AppDeployment :=
  match db.appDeployments.get? deploymentId with
  | none => .error ⟨404, "Not Found"⟩
  | some deployment =>
      if deployment.ownerId = user.id then .ok deployment else .error ⟨404, "Not Found"⟩

/-- `restart_deployment` up to its call of the provisioning: the state is committed before a
deployment without a node gets one.
-/
def restartDeployment (settings : Settings) (now : Instant) (user : User) (deploymentId : Uuid)
    (db : Database)
    : Placed :=
  match getDeployment db deploymentId user with
  | .error _ => (db, none)
  | .ok deployment =>
      let marked := changeDeployment deploymentId (setDeploymentState .building) db
      if deployment.nodeId.isSome then (marked, none)
      else
        match nodeForWorkload settings now deployment.ramLimitMb marked with
        | .error _ => (marked, none)
        | .ok node => (changeDeployment deploymentId (moveDeployment node.id) marked, some node.id)

/-- The state is committed before and after the call of the agent. -/
def stopDeployment (user : User) (deploymentId : Uuid) (db : Database)
    : Except HttpError Database := do
  let _ ← getDeployment db deploymentId user
  return changeDeployment deploymentId (setDeploymentState .suspended)
    (changeDeployment deploymentId (setDeploymentState .stopped) db)

/-- The first step of `_provision_app_deployment`; without a node the deployment fails. -/
def assignDeploymentNode (settings : Settings) (now : Instant) (deploymentId : Uuid)
    (db : Database)
    : Placed :=
  match db.appDeployments.get? deploymentId with
  | none => (db, none)
  | some deployment =>
      match deployment.nodeId with
      | some nodeId =>
          if (db.nodes.get? nodeId).isSome then (db, none)
          else (changeDeployment deploymentId (setDeploymentState .error) db, none)
      | none =>
          match selectBestNode settings db now deployment.ramLimitMb with
          | none => (changeDeployment deploymentId (setDeploymentState .error) db, none)
          | some node =>
              (changeDeployment deploymentId (buildDeploymentOn node.id) db, some node.id)

/-- The last step of `_provision_app_deployment`; `started` tells whether the agent has built and
started the container.
-/
def finishDeployment (started : Bool) : Change AppDeployment.id where
  apply deployment :=
    if started then
      { deployment with state := .running, healthStatus := .unknown, restartCount := 0 }
    else { deployment with state := .error }
  kept deployment := by cases started <;> rfl

-- Database instances

def newDatabase (engine : DatabaseEngine) (credentials : DatabaseCredentials)
    (projectId : Uuid) (ramLimitMb : Int) (nodeId : Uuid)
    : Template DatabaseInstance.id where
  make id :=
    { id, projectId, nodeId := some nodeId, engine, dbName := credentials.dbName,
      dbUsername := credentials.dbUsername, dbPassword := credentials.dbPassword, ramLimitMb }

def getProject (db : Database) (projectId : Uuid) (user : User) : Except HttpError Project :=
  match db.projects.get? projectId with
  | none => .error ⟨404, "Project not found"⟩
  | some project =>
      if project.ownerId = user.id then .ok project else .error ⟨404, "Project not found"⟩

def createDatabase (settings : Settings) (now : Instant) (user : User)
    (payload : CreateDatabaseRequest) (credentials : DatabaseCredentials) (db : Database)
    : Except HttpError Placed := do
  let project ← getProject db payload.projectId user
  let node ← nodeForWorkload settings now payload.ramLimitMb db
  let row := newDatabase payload.engine credentials project.id payload.ramLimitMb node.id
  return ({ db with databaseInstances := db.databaseInstances.create row }, some node.id)

def getDatabase (db : Database) (databaseId : Uuid) (user : User)
    : Except HttpError DatabaseInstance :=
  match db.databaseInstances.get? databaseId with
  | none => .error ⟨404, "Not Found"⟩
  | some database =>
      match db.projects.get? database.projectId with
      | none => .error internalError
      | some project =>
          if project.ownerId = user.id then .ok database else .error ⟨404, "Not Found"⟩

/-- `start_database` up to its call of the provisioning. -/
def startDatabase (user : User) (databaseId : Uuid) (db : Database)
    : Except HttpError Database := do
  let database ← getDatabase db databaseId user
  if database.state = .running then return db
  return changeDatabase databaseId (setDatabaseState .building) db

/-- `restart_database` up to its call of the provisioning. -/
def restartDatabase (user : User) (databaseId : Uuid) (db : Database)
    : Except HttpError Database := do
  let _ ← getDatabase db databaseId user
  return changeDatabase databaseId (setDatabaseState .building) db

def stopDatabase (user : User) (databaseId : Uuid) (db : Database)
    : Except HttpError Database := do
  let _ ← getDatabase db databaseId user
  return changeDatabase databaseId (setDatabaseState .suspended) db

/-- The first step of `_provision_database_instance`; without a node the database fails. -/
def assignDatabaseNode (settings : Settings) (now : Instant) (databaseId : Uuid) (db : Database)
    : Placed :=
  match db.databaseInstances.get? databaseId with
  | none => (db, none)
  | some database =>
      match database.nodeId with
      | some nodeId =>
          if (db.nodes.get? nodeId).isSome then (db, none)
          else (changeDatabase databaseId (setDatabaseState .error) db, none)
      | none =>
          match selectBestNode settings db now database.ramLimitMb with
          | none => (changeDatabase databaseId (setDatabaseState .error) db, none)
          | some node => (changeDatabase databaseId (buildDatabaseOn node.id) db, some node.id)

/-- The last step of `_provision_database_instance`; `started` is the agent's answer. -/
def finishDatabase (started : Bool) : Change DatabaseInstance.id :=
  setDatabaseState (if started then .running else .error)

-- Templates

def deployTemplate (settings : Settings) (now : Instant) (user : User) (templateId : String)
    (payload : DeployTemplateRequest) (credentials : DatabaseCredentials) (db : Database)
    : Except HttpError Placed :=
  match templates.find? (fun template => template.id = templateId) with
  | none => .error ⟨404, "Template not found"⟩
  | some template => do
      let project ← getProject db payload.projectId user
      let node ← nodeForWorkload settings now payload.ramLimitMb db
      if template.isDatabase then
        let row := newDatabase template.engine credentials project.id payload.ramLimitMb node.id
        return ({ db with databaseInstances := db.databaseInstances.create row }, some node.id)
      else
        let row :=
          newDeployment "/var/lib/blockhost/deployments/" user (some project.id)
            payload.ramLimitMb node.id
        return ({ db with appDeployments := db.appDeployments.create row }, some node.id)

end Blockhost
