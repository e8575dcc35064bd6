import Blockhost.Api.Restores

/-! Tenant confinement of restores: whose data the key or path of a restore can name. Two of the
three endpoints derive it from a resource of the user; the volume restore forwards the key of
the request.
-/

namespace Blockhost

open Library

inductive RestoreCall where
  | volume (deploymentId : Uuid) (s3Key : String) (succeeds : Bool)
  | database (dbId : Uuid) (backupId : String) (failure : Option String)
  | server (serverId : String) (payload : CreateRestoreRequest) (disk : Option String)

/-- An object key that an agent gets, or the path of an archive that a restore job extracts. -/
inductive Transfer where
  | objectKey (key : String)
  | archive (path : String)

def agentDownload (resourceId : String) : AgentRequest → Except String String
  | .volumeRestore _ s3Key => (restoreDeploymentVolumeSnapshot resourceId).map (fun _ => s3Key)
  | .databaseRestore _ _ _ _ _ s3Key => restoreDatabase resourceId s3Key

/-- A request of an endpoint brings a key to the agent, which may download another one. -/
def Forwarding.transfers (forwarding : Forwarding) (resourceId : Uuid) (key : String) : Prop :=
  ∃ request, forwarding.sent = some request
    ∧ (key = request.s3Key ∨ agentDownload (uuidText resourceId) request = .ok key)

/-- What a call leads to. The job of a server restore runs later, on any database and disk that
still have the job as it was added.
-/
def Transfers (functions : ArtifactFunctions) (storage : BackupStorage) (db : Database)
    (user : User)
    : RestoreCall → Transfer → Prop
  | .volume deploymentId s3Key succeeds, .objectKey key =>
      (restoreVolumeSnapshot db user deploymentId s3Key succeeds).transfers deploymentId key
  | .database dbId backupId failure, .objectKey key =>
      (restoreBackup db user dbId backupId failure).transfers dbId key
  | .server serverId payload disk, .archive path =>
      ∃ next job later stored files,
        createRestore functions storage disk db user serverId payload = .ok (next, job)
        ∧ later.restoreJobs.get? job.id = some stored
        ∧ stored.serverId = job.serverId ∧ stored.backupId = job.backupId
        ∧ restoreJobArchive functions ⟨storage.root, files⟩ later job.id = .ok (some path)
  | _, _ => False

def snapshotPrefix (deploymentId : Uuid) : String :=
  "deployments/" ++ uuidText deploymentId ++ "/snapshots/"

/-- The key prefixes of the resources that a user owns or collaborates on. -/
inductive OwnedPrefix (db : Database) (user : User) : String → Prop
  | deployment {deployment : AppDeployment}
      : deployment ∈ db.appDeployments.rows
        → deployment.ownerId = user.id
        → OwnedPrefix db user (snapshotPrefix deployment.id)
  | database {instance_ : DatabaseInstance} {project : Project}
      : instance_ ∈ db.databaseInstances.rows
        → project ∈ db.projects.rows
        → project.id = instance_.projectId
        → project.ownerId = user.id
        → OwnedPrefix db user (getS3Prefix instance_.id)
  | server {server : Server}
      : server ∈ db.servers.rows
        → (server.ownerId = user.id
          ∨ ∃ collaborator ∈ db.serverCollaborators.rows,
              collaborator.serverId = server.id ∧ collaborator.userId = user.id)
        → OwnedPrefix db user (uuidText server.id ++ "/objects/")

def OwnedKey (db : Database) (user : User) (key : String) : Prop :=
  ∃ folder, OwnedPrefix db user folder ∧ folder.toList <+: key.toList

/-- The transferred key, or the path below the storage directory, is one of the user's. -/
def Confined (root : String) (db : Database) (user : User) : Transfer → Prop
  | .objectKey key => OwnedKey db user key
  | .archive path => ∃ key, path = root ++ "/" ++ key ∧ OwnedKey db user key

def RestoreConfined (functions : ArtifactFunctions) (storage : BackupStorage) (db : Database)
    (user : User) (call : RestoreCall)
    : Prop :=
  ∀ transfer, Transfers functions storage db user call transfer
    → Confined storage.root db user transfer

/-- The checks of the volume restore: the app is the user's, has a node with an address, and
does not run.
-/
def VolumeRestoreAdmitted (db : Database) (user : User) (deploymentId : Uuid) : Prop :=
  ∃ deployment node,
    getApp db deploymentId user = .ok deployment
    ∧ assignedNode db deployment = some node
    ∧ deployment.state ≠ .running

theorem OwnedPrefix.append {db : Database} {user : User} {folder : String}
    (owned : OwnedPrefix db user folder) (name : String)
    : OwnedKey db user (folder ++ name) :=
  ⟨folder, owned, by rw [String.toList_append]; exact List.prefix_append _ _⟩

theorem volume_transfers_iff {db : Database} {user : User} {deploymentId : Uuid}
    {s3Key key : String} {succeeds : Bool}
    : (restoreVolumeSnapshot db user deploymentId s3Key succeeds).transfers deploymentId key
      ↔ VolumeRestoreAdmitted db user deploymentId ∧ key = s3Key := by
  have blocked : ∀ text, restoreDeploymentVolumeSnapshot text ≠ .ok () := by
    intro text
    unfold restoreDeploymentVolumeSnapshot
    split <;> simp
  have downloads (text : String) (request : AgentRequest) (url : String)
      (volume : request = .volumeRestore url s3Key)
      : agentDownload text request ≠ .ok key := by
    rw [volume]
    unfold agentDownload
    cases outcome : restoreDeploymentVolumeSnapshot text with
    | error error => simp [Except.map]
    | ok _ => exact absurd outcome (blocked text)
  unfold Forwarding.transfers VolumeRestoreAdmitted restoreVolumeSnapshot
  cases app : getApp db deploymentId user with
  | error refusal => simp
  | ok deployment =>
      dsimp only
      cases node : assignedNode db deployment with
      | none => simp [node]
      | some node' =>
          dsimp only
          by_cases running : deployment.state = .running
          · simp [running]
          · rw [if_neg running]
            constructor
            · rintro ⟨request, sent, same | downloaded⟩
              · cases sent
                exact ⟨⟨deployment, node', rfl, node, running⟩, same⟩
              · cases sent
                exact absurd downloaded (downloads _ _ _ rfl)
            · rintro ⟨_, rfl⟩
              exact ⟨_, rfl, .inl rfl⟩

theorem database_transfers_owned {db : Database} {user : User} {dbId : Uuid}
    {backupId key : String} {failure : Option String}
    (transferred : (restoreBackup db user dbId backupId failure).transfers dbId key)
    : OwnedKey db user key := by
  unfold Forwarding.transfers restoreBackup getDatabaseInstance at transferred
  obtain ⟨request, sent, same⟩ := transferred
  split at sent
  · cases sent
  · rename_i instance_ found
    split at found
    · cases found
    · rename_i stored storedFound
      split at found
      · cases found
      · rename_i project projectFound
        split at found
        · rename_i owner
          cases found
          split at sent
          · cases sent
          · cases sent
            obtain ⟨member, named⟩ := Table.get?_some storedFound
            obtain ⟨projectMember, projectId⟩ := Table.get?_some projectFound
            have owned : OwnedPrefix db user (getS3Prefix dbId) :=
              named ▸ .database member projectMember projectId owner
            have forwarded : key = getS3Prefix dbId ++ backupId := by
              rcases same with same | downloaded
              · exact same
              · unfold agentDownload restoreDatabase at downloaded
                dsimp only at downloaded
                split at downloaded
                · cases downloaded
                · exact (Except.ok.inj downloaded).symm
            rw [forwarded]
            exact owned.append backupId
        · cases found

theorem createRestore_ok {functions : ArtifactFunctions} {storage : BackupStorage}
    {disk : Option String} {db next : Database} {user : User} {serverId : String}
    {payload : CreateRestoreRequest} {job : RestoreJob}
    (created : createRestore functions storage disk db user serverId payload = .ok (next, job))
    : ∃ server ∈ db.servers.rows, server.ownerId = user.id ∧ job.serverId = server.id := by
  unfold createRestore at created
  split at created
  · cases created
  · cases required : requireServer serverId user db with
    | error refusal =>
        rw [required] at created
        cases created
    | ok server =>
        have owned : server ∈ db.servers.rows ∧ server.ownerId = user.id := by
          unfold requireServer at required
          split at required
          · cases required
          · split at required
            · cases required
            · split at required
              · rename_i stored found owner
                cases required
                exact ⟨(Table.get?_some found).1, owner⟩
              · cases required
        rw [required] at created
        cases backupFound : requireBackup server (uuidText payload.backupId) user db with
        | error refusal =>
            simp only [backupFound, bind, Except.bind] at created
            cases created
        | ok backup =>
            simp only [backupFound, bind, Except.bind] at created
            repeat' split at created
            all_goals cases created
            exact ⟨server, owned.1, owned.2, rfl⟩

/-- Restores are confined to the user's own keys exactly when no admitted volume restore names
a key of somebody else.
-/
theorem restores_confined_iff (functions : ArtifactFunctions) (storage : BackupStorage)
    (db : Database) (user : User) (call : RestoreCall)
    : RestoreConfined functions storage db user call
      ↔ ∀ deploymentId s3Key succeeds,
          call = .volume deploymentId s3Key succeeds
          → VolumeRestoreAdmitted db user deploymentId
          → OwnedKey db user s3Key := by
  constructor
  · rintro confined deploymentId s3Key succeeds rfl admitted
    exact confined (.objectKey s3Key) (volume_transfers_iff.mpr ⟨admitted, rfl⟩)
  · intro own transfer transferred
    cases call with
    | volume deploymentId s3Key succeeds =>
        cases transfer with
        | archive path => exact absurd transferred id
        | objectKey key =>
            obtain ⟨admitted, rfl⟩ := volume_transfers_iff.mp transferred
            exact own deploymentId key succeeds rfl admitted
    | database dbId backupId failure =>
        cases transfer with
        | archive path => exact absurd transferred id
        | objectKey key => exact database_transfers_owned transferred
    | server serverId payload disk =>
        cases transfer with
        | objectKey key => exact absurd transferred id
        | archive path =>
            obtain ⟨next, job, later, stored, files, created, kept, server, backup, chosen⟩ :=
              transferred
            obtain ⟨current, found, located⟩ := restoreJobArchive_some chosen
            obtain rfl : stored = current := Option.some.inj (kept.symm.trans found)
            obtain ⟨owned, member, owner, same⟩ := createRestore_ok created
            have folder : OwnedPrefix db user (uuidText owned.id ++ "/objects/") :=
              .server member (.inl owner)
            refine ⟨backupStorageKey stored.serverId stored.backupId, located, ?_⟩
            rw [server, same]
            unfold backupStorageKey
            rw [String.append_assoc]
            exact folder.append _

private def tenant : User where
  id := 1
  email := "tenant@example.com"
  authHash := ""
  nickname := "tenant"

private def ownApp : AppDeployment where
  id := 10
  ownerId := 1
  nodeId := some 0
  volumePath := ""

private def foreignApp : AppDeployment where
  id := 11
  ownerId := 2
  nodeId := some 0
  volumePath := ""

private def appNode : Node where
  id := 0
  name := "worker-1"
  ipAddress := "10.0.0.1"
  statusUpdatedAt := 0

private def withApps : Database where
  nodes := ⟨[appNode], List.nodup_singleton _⟩
  appDeployments := ⟨[ownApp, foreignApp], by decide⟩

private def plainArtifacts : ArtifactFunctions where
  sha256 _ := ""
  strippedText _ := ""

/-- A restore of the user's own app can name a snapshot of another user's app. -/
theorem volume_restore_names_foreign_snapshot
    : ¬ ∀ (functions : ArtifactFunctions) (storage : BackupStorage) (db : Database)
        (user : User) (call : RestoreCall),
        RestoreConfined functions storage db user call := by
  intro confined
  have admitted : VolumeRestoreAdmitted withApps tenant 10 :=
    ⟨ownApp, appNode, rfl, rfl, by decide⟩
  obtain ⟨folder, owned, named⟩ := confined plainArtifacts ⟨"backups", fun _ => none⟩ withApps
    tenant (.volume 10 (snapshotPrefix 11 ++ "1.tar.gz") true) (.objectKey _)
    (volume_transfers_iff.mpr ⟨admitted, rfl⟩)
  cases owned with
  | @deployment app member owner =>
      rcases List.mem_cons.mp member with rfl | member
      · exact absurd named (by decide +kernel)
      · rw [List.mem_singleton.mp member] at owner
        exact absurd owner (by decide)
  | database member => exact absurd member List.not_mem_nil
  | server member => exact absurd member List.not_mem_nil

end Blockhost
