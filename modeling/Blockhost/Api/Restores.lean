import Blockhost.Api.Schemas
import Blockhost.Orchestrator.BackupPaths

/-! The three restore endpoints, with the agent handlers behind two of them. -/

namespace Blockhost

open Library

inductive AgentRequest where
  | volumeRestore (url : String) (s3Key : String)
  | databaseRestore (url : String) (engine : DatabaseEngine)
      (username password database s3Key : String)
deriving DecidableEq, Repr

def AgentRequest.s3Key : AgentRequest → String
  | volumeRestore _ s3Key => s3Key
  | databaseRestore _ _ _ _ _ s3Key => s3Key

/-- The request that an endpoint sends, if it comes that far, and its own answer. -/
structure Forwarding where
  sent : Option AgentRequest := none
  answer : Except HttpError Unit

def getApp (db : Database) (deploymentId : Uuid) (user : User)
    : Except HttpError AppDeployment :=
  match db.appDeployments.get? deploymentId with
  | none => .error ⟨404, "App not found"⟩
  | some deployment =>
      if deployment.ownerId = user.id then .ok deployment
      else .error ⟨404, "App not found"⟩

/-- The endpoint below which a node's agent listens. -/
def agentUrl (node : Node) (resource : String) (id : Uuid) (action : String) : String :=
  "http://" ++ node.ipAddress ++ ":" ++ toString node.agentPort ++ "/agent/" ++ resource ++ "/"
    ++ uuidText id ++ "/" ++ action

def assignedNode (db : Database) (deployment : AppDeployment) : Option Node :=
  (deployment.nodeId.bind db.nodes.get?).filter (fun node => node.ipAddress ≠ "")

/-- `succeeds` tells whether the agent answers with success. The key of the request is sent as
it is.
-/
def restoreVolumeSnapshot (db : Database) (user : User) (deploymentId : Uuid) (s3Key : String)
    (succeeds : Bool)
    : Forwarding :=
  match getApp db deploymentId user with
  | .error refusal => { answer := .error refusal }
  | .ok deployment =>
      match assignedNode db deployment with
      | none => { answer := .error ⟨400, "App is not assigned to a node"⟩ }
      | some node =>
          if deployment.state = .running then
            { answer := .error ⟨400, "Please stop the app before restoring a snapshot"⟩ }
          else
            {
              sent := some (.volumeRestore
                (agentUrl node "deployments" deployment.id "volume-restore") s3Key),
              answer :=
                if succeeds then .ok ()
                else .error ⟨500, "Failed to restore volume snapshot"⟩
            }

def getS3Prefix (dbId : Uuid) : String := "databases/" ++ uuidText dbId ++ "/backups/"

def getDatabaseInstance (db : Database) (dbId : Uuid) (user : User)
    : Except HttpError DatabaseInstance :=
  match db.databaseInstances.get? dbId with
  | none => .error ⟨404, "Database not found"⟩
  | some instance_ =>
      match db.projects.get? instance_.projectId with
      | none => .error internalError
      | some project =>
          if project.ownerId = user.id then .ok instance_
          else .error ⟨403, "Not authorized"⟩

/-- `failure` is the text of the exception that the call to the agent raises, if any. -/
def restoreBackup (db : Database) (user : User) (dbId : Uuid) (backupId : String)
    (failure : Option String)
    : Forwarding :=
  match getDatabaseInstance db dbId user with
  | .error refusal => { answer := .error refusal }
  | .ok instance_ =>
      match instance_.nodeId.bind db.nodes.get? with
      | none => { answer := .error ⟨400, "Database is not assigned to a node"⟩ }
      | some node =>
          {
            sent := some (.databaseRestore (agentUrl node "databases" dbId "restore")
              instance_.engine instance_.dbUsername instance_.dbPassword instance_.dbName
              (getS3Prefix dbId ++ backupId)),
            answer :=
              match failure with
              | none => .ok ()
              | some text => .error ⟨500, "Failed to restore backup on agent: " ++ text⟩
          }

/-- The agent's volume restore raises on its import of `get_s3_presigned_url`, which the storage
module does not define, before it reads the key.
-/
def restoreDeploymentVolumeSnapshot (deploymentId : String) : Except String Unit :=
  match parseUuid deploymentId with
  | none => .error "Invalid server ID format"
  | some _ => .error "cannot import name 'get_s3_presigned_url'"

def restoreDatabase (dbId : String) (s3Key : String) : Except String String :=
  match parseUuid dbId with
  | none => .error "Invalid server ID format"
  | some _ => .ok s3Key

def requireServer (serverId : String) (user : User) (db : Database)
    : Except HttpError Server :=
  match parseUuid serverId with
  | none => .error ⟨404, "Not found"⟩
  | some serverUuid =>
      match db.servers.get? serverUuid with
      | none => .error ⟨404, "Server not found"⟩
      | some server =>
          if server.ownerId = user.id then .ok server
          else .error ⟨404, "Server not found"⟩

def requireBackup (server : Server) (backupId : String) (user : User) (db : Database)
    : Except HttpError Backup :=
  match parseUuid backupId with
  | none => .error ⟨404, "Not found"⟩
  | some backupUuid =>
      match db.backups.get? backupUuid with
      | none => .error ⟨404, "Backup not found"⟩
      | some backup =>
          if backup.serverId = server.id && backup.ownerId = user.id then .ok backup
          else .error ⟨404, "Backup not found"⟩

structure CreateRestoreRequest where
  backupId : Uuid
  restartAfterRestore : Bool := true
  rollbackEnabled : Bool := true
  confirm : String

def newRestoreJob (server : Server) (backup : Backup) (user : User)
    (payload : CreateRestoreRequest) (id : Uuid)
    : RestoreJob where
  id := id
  backupId := backup.id
  serverId := server.id
  requestedByUserId := user.id
  restartAfterRestore := payload.restartAfterRestore
  rollbackEnabled := payload.rollbackEnabled

/-- Add the job of a restore; `disk` is the message of a refusing disk check. -/
def createRestore (functions : ArtifactFunctions) (storage : BackupStorage)
    (disk : Option String) (db : Database) (user : User) (serverId : String)
    (payload : CreateRestoreRequest)
    : Except HttpError (Database × RestoreJob) :=
  if payload.confirm ≠ "RESTORE" then .error ⟨400, "Restore confirmation is required"⟩
  else do
    let server ← requireServer serverId user db
    let backup ← requireBackup server (uuidText payload.backupId) user db
    if backup.status ≠ .completed then .error ⟨409, "Backup is not completed"⟩
    else
      match verifyBackupArtifact functions storage backup with
      | .error failure => .error ⟨410, failure.message⟩
      | .ok _ =>
          if (activeBackup db server.id).isSome then
            .error ⟨409, "Backup already active for this server"⟩
          else if (activeRestore db server.id).isSome then
            .error ⟨409, "Restore already active for this server"⟩
          else
            match disk with
            | some message => .error ⟨503, message⟩
            | none =>
                .ok (
                  { db with
                    restoreJobs :=
                      db.restoreJobs.create
                        ⟨newRestoreJob server backup user payload, fun _ => rfl⟩ },
                  newRestoreJob server backup user payload db.restoreJobs.freshKey)

end Blockhost
