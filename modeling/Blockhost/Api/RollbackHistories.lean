import Blockhost.Api.Deployments
import Blockhost.Database.Identifiers
import Blockhost.Library.Run

/-! What a rollback starts again. Provisioning builds an image where the deployment has a
repository, and the agent pulls the image of the tag from the registry before it starts the
container; the history records under which tag, with which image and in which environment each
revision ran.
-/

namespace Blockhost.Deployments

open Library

variable {Image : Type}

def buildTag (deploymentId : Uuid) : String := "blockhost-build-" ++ uuidText deploymentId

/-- What a provisioning run learns from outside: a node, whether a build succeeds, the images that
the registry has under its tags, and the answer to the start.
-/
structure ProvisionInputs (Image : Type) where
  node : Option Uuid := none
  builds : Bool := true
  registry : String → Option Image
  container : Option StartedContainer := some ⟨none, none⟩
  message : String := ""
  now : Instant := 0

structure StartRecord (Image : Type) where
  revision : Option Uuid
  imageTag : String
  image : Image
  envVars : EnvVars

/-- The start call of a run. The agent pulls the image of the tag and fails without it. -/
def startContainer (inputs : ProvisionInputs Image) (run : ProvisioningRun) (rows : Rows)
    : Rows × Option (StartRecord Image) :=
  let deployment := run.reload rows
  match inputs.registry deployment.dockerImage, inputs.container with
  | some image, some container =>
      (recordStart container inputs.now run rows,
        some
          {
            revision := run.revision,
            imageTag := deployment.dockerImage,
            image,
            envVars := deployment.envVars
          })
  | _, _ => (recordFailure inputs.message rows, none)

/-- `_provision_app_deployment` without interruption. -/
def provisionAppDeployment (inputs : ProvisionInputs Image) (rows : Rows)
    : Rows × Option (StartRecord Image) :=
  let rows := assignNode inputs.node rows
  let run := openRun rows
  if rows.deployment.nodeId.isNone then (recordFailure inputs.message rows, none)
  else if run.stage = .building then
    if inputs.builds then
      startContainer inputs run.expire (recordBuild (buildTag rows.deployment.id) run rows)
    else (recordFailure inputs.message rows, none)
  else startContainer inputs run rows

/-- `rollback_deployment` to a chosen revision, with its provisioning. -/
def rollbackDeployment (target : DeploymentRevision) (id : Uuid) (now : Instant)
    (inputs : ProvisionInputs Image) (rows : Rows)
    : Rows × Option (StartRecord Image) :=
  provisionAppDeployment inputs (commitRequest (rollbackTo target rows) id now rows)

-- Histories

/-- The rows of a deployment, and every container that has been started for it. -/
structure History (Image : Type) where
  rows : Rows
  started : List (StartRecord Image) := []

inductive HistoryEvent (Image : Type) where
  | request (request : Request) (id : Uuid) (now : Instant)
  | provision (inputs : ProvisionInputs Image)
  | setState (state : DeploymentState)
  | connect (envVars : EnvVars)

def performHistory (history : History Image) : HistoryEvent Image → History Image
  | .request request id now =>
      match openRequest history.rows request with
      | .error _ => history
      | .ok pending => { history with rows := commitRequest pending id now history.rows }
  | .provision inputs =>
      let (rows, started) := provisionAppDeployment inputs history.rows
      { rows, started := history.started ++ started.toList }
  | .setState state =>
      { history with
        rows :=
          { history.rows with deployment := { history.rows.deployment with state } } }
  | .connect envVars =>
      { history with
        rows :=
          { history.rows with deployment := { history.rows.deployment with envVars } } }

/-- A new revision has a new identifier and a later time than all others. -/
def NewRevision (rows : Rows) : HistoryEvent Image → Prop
  | .request _ id now =>
      id ∉ rows.revisions.map DeploymentRevision.id
      ∧ ∀ revision ∈ rows.revisions, revision.createdAt < now
  | _ => True

structure HistoryStep (before : History Image) (event : HistoryEvent Image)
    (after : History Image)
    : Prop where
  fresh : NewRevision before.rows event
  performed : after = performHistory before event

/-- A deployment that has just been created, and has not run. -/
structure NewHistory (history : History Image) : Prop where
  first : ∃ first, history.rows.revisions = [first]
  started : history.started = []

/-- The environment in which a revision ran is the one that a rollback brings back. -/
def BringsBack (target : DeploymentRevision) (current ran : EnvVars) : Prop :=
  (∃ snapshot, target.envSnapshot = some snapshot ∧ snapshot ≠ [] ∧ snapshot = ran)
  ∨ (target.envSnapshot = none ∨ target.envSnapshot = some []) ∧ current = ran

theorem rollbackEnv_eq_iff {target : DeploymentRevision} {current ran : EnvVars}
    : rollbackEnv target current = ran ↔ BringsBack target current ran := by
  unfold rollbackEnv BringsBack
  cases snapshot : target.envSnapshot with
  | none => simp
  | some envVars =>
      cases envVars with
      | nil => simp
      | cons entry rest =>
          simp only [Option.some.injEq, exists_eq_left', ne_eq, reduceCtorEq, not_false_eq_true,
            true_and, false_and, or_false]

-- The tags of the started containers

def IsBuilt (deployment : AppDeployment) : Prop :=
  deployment.githubRepoUrl.getD "" ≠ ""

/-- What the rows of a deployment say about the containers that have been started. -/
structure Recorded (rows : Rows) (started : List (StartRecord Image)) : Prop where
  known : ∀ record ∈ started, ∀ id, record.revision = some id
    → id ∈ rows.revisions.map DeploymentRevision.id
  tagged : ∀ record ∈ started, ∀ revision ∈ rows.revisions, record.revision = some revision.id
    → revision.imageTag = some record.imageTag
  latest : ¬ IsBuilt rows.deployment → ∀ record ∈ started,
    ∀ revision, latestRevision rows = some revision → record.revision = some revision.id
    → rows.deployment.dockerImage = record.imageTag
  built : IsBuilt rows.deployment → ∀ record ∈ started,
    record.imageTag = buildTag rows.deployment.id

variable {rows : Rows} {started : List (StartRecord Image)}

theorem latestRevision_map {change : DeploymentRevision → DeploymentRevision}
    (sameId : ∀ revision, (change revision).id = revision.id)
    (sameTime : ∀ revision, (change revision).createdAt = revision.createdAt)
    (rows : Rows) (deployment : AppDeployment)
    : (latestRevision ⟨deployment, rows.revisions.map change⟩).map DeploymentRevision.id
      = (latestRevision rows).map DeploymentRevision.id := by
  unfold latestRevision
  rw [latest_map _ _ sameTime, Option.map_map]
  exact congrArg (Option.map · _) (funext sameId)

theorem map_ids {change : DeploymentRevision → DeploymentRevision}
    (sameId : ∀ revision, (change revision).id = revision.id)
    (revisions : List DeploymentRevision)
    : (revisions.map change).map DeploymentRevision.id
      = revisions.map DeploymentRevision.id := by
  rw [List.map_map]
  exact congrArg (List.map · revisions) (funext sameId)

theorem latestRevision_recordBuild (imageTag : String) (run : ProvisioningRun) (rows : Rows)
    : (latestRevision (recordBuild imageTag run rows)).map DeploymentRevision.id
      = (latestRevision rows).map DeploymentRevision.id := by
  unfold recordBuild
  dsimp only
  split
  · rfl
  · exact latestRevision_map (fun revision => by split <;> rfl)
      (fun revision => by split <;> rfl) rows _

theorem openRequest_loaded {request : Request} {pending : PendingRequest}
    (opened : openRequest rows request = .ok pending)
    : pending.loaded = rows.deployment
      ∧ (pending.added = none → pending.changed.dockerImage = rows.deployment.dockerImage) := by
  have updated (envVars : EnvVars)
      : (updateEnvVars envVars rows).loaded = rows.deployment
        ∧ ((updateEnvVars envVars rows).added = none
          → (updateEnvVars envVars rows).changed.dockerImage = rows.deployment.dockerImage) := by
    unfold updateEnvVars
    dsimp only
    split <;> exact ⟨rfl, fun _ => rfl⟩
  cases request with
  | deploy =>
      cases opened
      exact ⟨rfl, fun _ => rfl⟩
  | setEnv envVars =>
      cases opened
      exact updated envVars
  | deleteEnv key =>
      change deleteEnvVar key rows = .ok pending at opened
      unfold deleteEnvVar at opened
      split at opened
      · cases opened
        exact updated _
      · cases opened
  | rollback revisionId =>
      change (rollbackTarget rows.revisions revisionId).map (rollbackTo · rows) = .ok pending
        at opened
      cases chosen : rollbackTarget rows.revisions revisionId with
      | error error =>
          rw [chosen] at opened
          cases opened
      | ok target =>
          rw [chosen] at opened
          cases opened
          exact ⟨rfl, nofun⟩
  | push commitSha =>
      cases opened
      exact ⟨rfl, fun _ => rfl⟩

namespace Recorded

theorem withDeployment (recorded : Recorded rows started) {deployment : AppDeployment}
    (sameImage : deployment.dockerImage = rows.deployment.dockerImage)
    (sameRepo : deployment.githubRepoUrl = rows.deployment.githubRepoUrl)
    (sameId : deployment.id = rows.deployment.id)
    : Recorded { rows with deployment } started := by
  have sameBuilt : IsBuilt deployment ↔ IsBuilt rows.deployment := by
    unfold IsBuilt
    rw [sameRepo]
  refine ⟨recorded.known, recorded.tagged, ?_, ?_⟩
  · intro unbuilt record member revision newest of
    rw [sameImage]
    exact recorded.latest (fun isBuilt => unbuilt (sameBuilt.mpr isBuilt)) record member revision
      newest of
  · intro isBuilt record member
    rw [sameId]
    exact recorded.built (sameBuilt.mp isBuilt) record member

theorem map (recorded : Recorded rows started)
    {change : DeploymentRevision → DeploymentRevision}
    (sameId : ∀ revision, (change revision).id = revision.id)
    (sameTime : ∀ revision, (change revision).createdAt = revision.createdAt)
    (tag : ∀ record ∈ started, ∀ revision, record.revision = some revision.id
      → revision.imageTag = some record.imageTag
      → (change revision).imageTag = some record.imageTag)
    : Recorded { rows with revisions := rows.revisions.map change } started := by
  refine ⟨?_, ?_, ?_, recorded.built⟩
  · intro record member id of
    rw [map_ids sameId]
    exact recorded.known record member id of
  · intro record member revision stored of
    obtain ⟨before, storedBefore, rfl⟩ := List.mem_map.mp stored
    rw [sameId] at of
    exact tag record member before of (recorded.tagged record member before storedBefore of)
  · intro unbuilt record member revision newest of
    have same := latestRevision_map sameId sameTime rows rows.deployment
    rw [newest, Option.map_some] at same
    obtain ⟨before, newestBefore, sameIds⟩ := Option.map_eq_some_iff.mp same.symm
    exact recorded.latest unbuilt record member before newestBefore (by rw [sameIds]; exact of)

theorem changeRevision (recorded : Recorded rows started) {id : Uuid}
    {change : DeploymentRevision → DeploymentRevision}
    (sameId : ∀ revision, (change revision).id = revision.id)
    (sameTime : ∀ revision, (change revision).createdAt = revision.createdAt)
    (tag : ∀ record ∈ started, record.revision = some id → ∀ revision,
      revision.imageTag = some record.imageTag
      → (change revision).imageTag = some record.imageTag)
    : Recorded { rows with revisions := Deployments.changeRevision id change rows.revisions }
        started := by
  refine recorded.map ?_ ?_ ?_
  · intro revision
    split
    · exact sameId revision
    · rfl
  · intro revision
    split
    · exact sameTime revision
    · rfl
  · intro record member revision of tagged
    split
    · rename_i here
      exact tag record member (here ▸ of) revision tagged
    · exact tagged

theorem assignNode (recorded : Recorded rows started) (node : Option Uuid)
    : Recorded (Deployments.assignNode node rows) started := by
  unfold Deployments.assignNode
  split
  · exact recorded.withDeployment rfl rfl rfl
  · exact recorded

theorem recordFailure (recorded : Recorded rows started) (message : String)
    : Recorded (Deployments.recordFailure message rows) started := by
  unfold Deployments.recordFailure
  have stopped : Recorded
      { rows with
        deployment := { rows.deployment with state := .error, errorMessage := some message } }
      started :=
    recorded.withDeployment rfl rfl rfl
  dsimp only
  split
  · exact stopped
  · exact stopped.changeRevision (fun _ => rfl) (fun _ => rfl) (fun _ _ _ _ tagged => tagged)

theorem recordBuild (recorded : Recorded rows started) (isBuilt : IsBuilt rows.deployment)
    (run : ProvisioningRun)
    : Recorded (Deployments.recordBuild (buildTag rows.deployment.id) run rows) started := by
  unfold Deployments.recordBuild
  have tagged : Recorded
      { rows with
        deployment := { rows.deployment with dockerImage := buildTag rows.deployment.id } }
      started :=
    ⟨recorded.known, recorded.tagged, fun unbuilt => absurd isBuilt unbuilt, recorded.built⟩
  dsimp only
  split
  · exact tagged
  · refine tagged.changeRevision (fun _ => rfl) (fun _ => rfl) ?_
    intro record member _ _ _
    exact congrArg some (recorded.built isBuilt record member).symm

theorem append (recorded : Recorded rows started) {record : StartRecord Image}
    (known : ∀ id, record.revision = some id → id ∈ rows.revisions.map DeploymentRevision.id)
    (tagged : ∀ revision ∈ rows.revisions, record.revision = some revision.id
      → revision.imageTag = some record.imageTag)
    (tag : rows.deployment.dockerImage = record.imageTag)
    (built : IsBuilt rows.deployment
      → rows.deployment.dockerImage = buildTag rows.deployment.id)
    : Recorded rows (started ++ [record]) := by
  refine ⟨?_, ?_, ?_, ?_⟩
  · intro other member
    rcases List.mem_append.mp member with old | new
    · exact recorded.known other old
    · rw [List.mem_singleton.mp new]
      exact known
  · intro other member
    rcases List.mem_append.mp member with old | new
    · exact recorded.tagged other old
    · rw [List.mem_singleton.mp new]
      exact tagged
  · intro unbuilt other member revision newest of
    rcases List.mem_append.mp member with old | new
    · exact recorded.latest unbuilt other old revision newest of
    · rw [List.mem_singleton.mp new]
      exact tag
  · intro isBuilt other member
    rcases List.mem_append.mp member with old | new
    · exact recorded.built isBuilt other old
    · rw [List.mem_singleton.mp new, ← tag]
      exact built isBuilt

theorem newest_tag (recorded : Recorded rows started)
    (tag : IsBuilt rows.deployment
      → rows.deployment.dockerImage = buildTag rows.deployment.id)
    {newest : DeploymentRevision} (found : latestRevision rows = some newest)
    {record : StartRecord Image} (member : record ∈ started)
    (of : record.revision = some newest.id)
    : rows.deployment.dockerImage = record.imageTag := by
  by_cases isBuilt : IsBuilt rows.deployment
  · rw [tag isBuilt, recorded.built isBuilt record member]
  · exact recorded.latest isBuilt record member newest found of

theorem startContainer (recorded : Recorded rows started) {run : ProvisioningRun}
    (current : run.reload rows = rows.deployment)
    (newest : run.revision = (latestRevision rows).map DeploymentRevision.id)
    (tag : IsBuilt rows.deployment
      → rows.deployment.dockerImage = buildTag rows.deployment.id)
    (inputs : ProvisionInputs Image)
    : Recorded (Deployments.startContainer inputs run rows).1
        (started ++ (Deployments.startContainer inputs run rows).2.toList) := by
  unfold Deployments.startContainer
  rw [current]
  dsimp only
  cases pulled : inputs.registry rows.deployment.dockerImage with
  | none =>
      rw [Option.toList_none, List.append_nil]
      exact recorded.recordFailure inputs.message
  | some image =>
      cases answer : inputs.container with
      | none =>
          rw [Option.toList_none, List.append_nil]
          exact recorded.recordFailure inputs.message
      | some container =>
          dsimp only [Option.toList_some]
          unfold recordStart
          rw [current, newest]
          dsimp only
          have running : Recorded
              { rows with
                deployment :=
                  { rows.deployment with
                    containerId := container.containerId
                    hostPort := container.hostPort
                    state := .running
                    errorMessage := none
                    healthStatus := .unknown
                    restartCount := 0 } }
              started :=
            recorded.withDeployment rfl rfl rfl
          cases found : latestRevision rows with
          | none =>
              refine running.append nofun ?_ rfl tag
              intro revision _ of
              cases of
          | some last =>
              dsimp only [Option.map_some]
              refine Recorded.append ?_ ?_ ?_ rfl tag
              · refine running.changeRevision (fun _ => rfl) (fun _ => rfl) ?_
                intro record member of revision _
                exact congrArg some (recorded.newest_tag tag found member of)
              · intro id of
                cases of
                unfold Deployments.changeRevision
                rw [map_ids (fun revision => by split <;> rfl)]
                exact List.mem_map_of_mem (latest_some found).1
              · intro revision stored of
                obtain ⟨before, _, rfl⟩ := List.mem_map.mp stored
                split
                · rfl
                · rename_i other
                  rw [if_neg other] at of
                  exact absurd (Option.some.inj of).symm other

theorem provisionAppDeployment (recorded : Recorded rows started)
    (inputs : ProvisionInputs Image)
    : Recorded (Deployments.provisionAppDeployment inputs rows).1
        (started ++ (Deployments.provisionAppDeployment inputs rows).2.toList) := by
  have assigned := recorded.assignNode inputs.node
  unfold Deployments.provisionAppDeployment
  dsimp only
  generalize Deployments.assignNode inputs.node rows = rows at assigned
  split
  · rw [Option.toList_none, List.append_nil]
    exact assigned.recordFailure inputs.message
  · split
    · rename_i building
      have isBuilt : IsBuilt rows.deployment := by
        intro unbuilt
        unfold openRun at building
        rw [if_pos unbuilt] at building
        cases building
      split
      · refine (assigned.recordBuild isBuilt (openRun rows)).startContainer rfl ?_
          (fun _ => rfl) inputs
        exact (latestRevision_recordBuild _ _ rows).symm
      · rw [Option.toList_none, List.append_nil]
        exact assigned.recordFailure inputs.message
    · rename_i ready
      have unbuilt : ¬ IsBuilt rows.deployment := by
        intro isBuilt
        unfold openRun at ready
        rw [if_neg isBuilt] at ready
        exact ready rfl
      exact assigned.startContainer rfl rfl (fun isBuilt => absurd isBuilt unbuilt) inputs

theorem commitRequest (recorded : Recorded rows started) {request : Request}
    {pending : PendingRequest} (opened : openRequest rows request = .ok pending) {id : Uuid}
    {now : Instant} (fresh : id ∉ rows.revisions.map DeploymentRevision.id)
    (later : ∀ revision ∈ rows.revisions, revision.createdAt < now)
    : Recorded (Deployments.commitRequest pending id now rows) started := by
  obtain ⟨loaded, sameImage⟩ := openRequest_loaded opened
  have deactivated : Recorded
      { rows with revisions := deactivate pending.deactivated rows.revisions } started := by
    refine recorded.map ?_ ?_ ?_
    · intro revision
      split <;> rfl
    · intro revision
      split <;> rfl
    · intro record _ revision _ tagged
      split <;> exact tagged
  unfold Deployments.commitRequest
  rw [loaded, written_current, written_current, written_current]
  cases adds : pending.added with
  | none =>
      rw [Option.map_none, Option.toList_none, List.append_nil]
      exact deactivated.withDeployment (sameImage adds) rfl rfl
  | some revision =>
      rw [Option.map_some, Option.toList_some]
      have unused {record : StartRecord Image} (member : record ∈ started)
          : record.revision ≠ some id := by
        intro of
        exact fresh (recorded.known record member id of)
      refine ⟨?_, ?_, ?_, deactivated.built⟩
      · intro record member other of
        rw [List.map_append]
        exact List.mem_append_left _ (deactivated.known record member other of)
      · intro record member other stored of
        rcases List.mem_append.mp stored with old | new
        · exact deactivated.tagged record member other old of
        · rw [List.mem_singleton.mp new] at of
          exact absurd of (unused member)
      · intro _ record member other newest of
        unfold latestRevision at newest
        rw [latest_concat] at newest
        · cases newest
          exact absurd of (unused member)
        · intro before stored
          obtain ⟨row, storedRow, rfl⟩ := List.mem_map.mp stored
          split <;> exact later row storedRow

end Recorded

theorem HistoryStep.keeps {before after : History Image} {event : HistoryEvent Image}
    (taken : HistoryStep before event after) (recorded : Recorded before.rows before.started)
    : Recorded after.rows after.started := by
  obtain ⟨fresh, rfl⟩ := taken
  cases event with
  | request request id now =>
      unfold performHistory
      dsimp only
      cases opened : openRequest before.rows request with
      | error error => exact recorded
      | ok pending => exact recorded.commitRequest opened fresh.1 fresh.2
  | provision inputs => exact recorded.provisionAppDeployment inputs
  | setState state => exact recorded.withDeployment rfl rfl rfl
  | connect envVars => exact recorded.withDeployment rfl rfl rfl

theorem NewHistory.recorded {start finish : History Image} {events : List (HistoryEvent Image)}
    (new : NewHistory start) (run : Run HistoryStep start events finish)
    : Recorded finish.rows finish.started := by
  refine run.invariant (fun history => Recorded history.rows history.started) (fun _ => True)
    (fun _ taken => taken.keeps) (fun _ _ => trivial) ?_
  rw [new.started]
  exact ⟨nofun, nofun, fun _ => nofun, fun _ => nofun⟩

-- The container of a rollback

theorem rollbackTarget_stored {revisions : List DeploymentRevision} {requested : Option Uuid}
    {target : DeploymentRevision} (chosen : rollbackTarget revisions requested = .ok target)
    : target ∈ revisions := by
  unfold rollbackTarget at chosen
  split at chosen
  · split at chosen
    · cases chosen
    · rename_i found
      split at chosen
      · cases chosen
      · cases chosen
        exact List.mem_of_find?_eq_some found
  · split at chosen
    · cases chosen
    · rename_i found
      cases chosen
      exact (List.mem_filter.mp (latest_some found).1).1

theorem startContainer_some {inputs : ProvisionInputs Image} {run : ProvisioningRun}
    {rows : Rows} {again : StartRecord Image}
    (starts : (startContainer inputs run rows).2 = some again)
    : again.imageTag = (run.reload rows).dockerImage
      ∧ again.envVars = (run.reload rows).envVars
      ∧ inputs.registry again.imageTag = some again.image := by
  unfold startContainer at starts
  dsimp only at starts
  split at starts
  · rename_i pulled _
    cases starts
    exact ⟨rfl, rfl, pulled⟩
  · cases starts

/-- The tag that a provisioning run pulls. -/
def pulledTag (deployment : AppDeployment) : String :=
  if deployment.githubRepoUrl.getD "" = "" then deployment.dockerImage
  else buildTag deployment.id

theorem assignNode_pulled (node : Option Uuid) (rows : Rows)
    : pulledTag (assignNode node rows).deployment = pulledTag rows.deployment
      ∧ (assignNode node rows).deployment.envVars = rows.deployment.envVars := by
  unfold assignNode
  split <;> exact ⟨rfl, rfl⟩

theorem provisionAppDeployment_some {inputs : ProvisionInputs Image} {rows : Rows}
    {again : StartRecord Image} (starts : (provisionAppDeployment inputs rows).2 = some again)
    : again.envVars = rows.deployment.envVars
      ∧ inputs.registry (pulledTag rows.deployment) = some again.image := by
  obtain ⟨sameTag, sameEnv⟩ := assignNode_pulled inputs.node rows
  unfold provisionAppDeployment at starts
  dsimp only at starts
  rw [← sameTag, ← sameEnv]
  generalize assignNode inputs.node rows = rows at starts
  split at starts
  · cases starts
  · split at starts
    · rename_i building
      have isBuilt : rows.deployment.githubRepoUrl.getD "" ≠ "" := by
        intro unbuilt
        unfold openRun at building
        rw [if_pos unbuilt] at building
        cases building
      split at starts
      · obtain ⟨tag, env, pulled⟩ := startContainer_some starts
        refine ⟨env, ?_⟩
        unfold pulledTag
        rw [if_neg isBuilt, ← pulled, tag]
        rfl
      · cases starts
    · rename_i ready
      have unbuilt : rows.deployment.githubRepoUrl.getD "" = "" := by
        by_contra isBuilt
        unfold openRun at ready
        rw [if_neg isBuilt] at ready
        exact ready rfl
      obtain ⟨tag, env, pulled⟩ := startContainer_some starts
      refine ⟨env, ?_⟩
      unfold pulledTag
      rw [if_pos unbuilt, ← pulled, tag]
      rfl

theorem Recorded.pulledTag_rollback {rows : Rows} {started : List (StartRecord Image)}
    (recorded : Recorded rows started) {target : DeploymentRevision}
    (stored : target ∈ rows.revisions) {record : StartRecord Image} (member : record ∈ started)
    (ran : record.revision = some target.id) (id : Uuid) (now : Instant)
    : pulledTag (Deployments.commitRequest (rollbackTo target rows) id now rows).deployment
      = record.imageTag := by
  have tagged := recorded.tagged record member target stored ran
  unfold Deployments.commitRequest rollbackTo revising pulledTag
  dsimp only
  rw [written_current, tagged]
  split
  · rfl
  · rename_i isBuilt
    exact (recorded.built isBuilt record member).symm

/-- A rollback starts the image and the environment of a revision that has run exactly if its tag
still has that image, and the snapshot of the revision brings that environment back.
-/
theorem rollback_starts_what_ran_iff {start finish : History Image}
    {events : List (HistoryEvent Image)} {requested : Option Uuid}
    {target : DeploymentRevision} {record again : StartRecord Image} {id : Uuid} {now : Instant}
    {inputs : ProvisionInputs Image} (new : NewHistory start)
    (run : Run HistoryStep start events finish)
    (chosen : rollbackTarget finish.rows.revisions requested = .ok target)
    (started : record ∈ finish.started) (ran : record.revision = some target.id)
    (succeeds : (rollbackDeployment target id now inputs finish.rows).2 = some again)
    : (again.image = record.image ∧ again.envVars = record.envVars)
      ↔ inputs.registry record.imageTag = some record.image
        ∧ BringsBack target finish.rows.deployment.envVars record.envVars := by
  obtain ⟨env, pulled⟩ := provisionAppDeployment_some succeeds
  rw [(new.recorded run).pulledTag_rollback (rollbackTarget_stored chosen) started ran] at pulled
  have brought : again.envVars = rollbackEnv target finish.rows.deployment.envVars := by
    rw [env]
    exact written_current _ _
  rw [brought, rollbackEnv_eq_iff, pulled]
  exact ⟨fun ⟨image, back⟩ => ⟨congrArg some image, back⟩,
    fun ⟨image, back⟩ => ⟨Option.some.inj image, back⟩⟩

def newImageApp : History Nat where
  rows :=
    {
      deployment :=
        { id := 0, ownerId := 7, nodeId := some 1, volumePath := "data", dockerImage := "app:1" },
      revisions := [{ id := 0, deploymentId := 0, isActive := true, createdAt := 0 }]
    }

def steadyRegistry : ProvisionInputs Nat where
  registry := fun _ => some 1

/-- The environment of the deployment changes twice, and each revision runs. -/
def environmentChanges : List (HistoryEvent Nat) :=
  [.provision steadyRegistry, .request (.setEnv [("MODE", "first")]) 1 5,
    .provision steadyRegistry, .request (.setEnv [("MODE", "second")]) 2 6,
    .provision steadyRegistry]

def firstChange : DeploymentRevision where
  id := 1
  deploymentId := 0
  imageTag := some "app:1"
  status := .running
  trigger := .envChange
  deployedAt := some 0
  envSnapshot := some [("MODE", "first")]
  createdAt := 5

theorem environmentChanges_run
    : Run HistoryStep newImageApp environmentChanges
        (environmentChanges.foldl performHistory newImageApp) := by
  refine .next (.next (.next (.next (.next .done ⟨trivial, rfl⟩) ⟨?_, rfl⟩) ⟨trivial, rfl⟩)
    ⟨?_, rfl⟩) ⟨trivial, rfl⟩
  · exact ⟨by decide +kernel, by decide +kernel⟩
  · exact ⟨by decide +kernel, by decide +kernel⟩

/-- A rollback to a revision with a snapshot while its tag keeps its image. -/
theorem rollback_to_first_change
    : ∃ again,
        (rollbackDeployment firstChange 3 7 steadyRegistry
          (environmentChanges.foldl performHistory newImageApp).rows).2 = some again
        ∧ again.image = 1
        ∧ again.envVars = [("MODE", "first")] := by
  have new : NewHistory newImageApp := ⟨⟨_, rfl⟩, rfl⟩
  have chosen : rollbackTarget (environmentChanges.foldl performHistory newImageApp).rows.revisions
      none = .ok firstChange :=
    rfl
  have started : StartRecord.mk (some 1) "app:1" 1 [("MODE", "first")]
      ∈ (environmentChanges.foldl performHistory newImageApp).started :=
    List.mem_cons_of_mem _ List.mem_cons_self
  have succeeds : (rollbackDeployment firstChange 3 7 steadyRegistry
      (environmentChanges.foldl performHistory newImageApp).rows).2
        = some ⟨some 3, "app:1", 1, [("MODE", "first")]⟩ :=
    rfl
  have back :=
    rollback_starts_what_ran_iff new environmentChanges_run chosen started rfl succeeds
  exact ⟨_, succeeds, back.mpr ⟨rfl, .inl ⟨_, rfl, nofun, rfl⟩⟩⟩

/-- A rollback to the first revision, which ran in an empty environment, keeps the environment of
the second one.
-/
theorem rollback_to_first_keeps_environment
    : ¬ ∀ (start finish : History Nat) (events : List (HistoryEvent Nat))
        (requested : Option Uuid) (target : DeploymentRevision) (record again : StartRecord Nat)
        (id : Uuid) (now : Instant) (inputs : ProvisionInputs Nat),
      NewHistory start → Run HistoryStep start events finish
      → rollbackTarget finish.rows.revisions requested = .ok target
      → record ∈ finish.started → record.revision = some target.id
      → (rollbackDeployment target id now inputs finish.rows).2 = some again
      → again.image = record.image ∧ again.envVars = record.envVars := by
  intro restores
  have target : ∃ target,
      rollbackTarget (environmentChanges.foldl performHistory newImageApp).rows.revisions (some 0)
        = .ok target
      ∧ target.id = 0
      ∧ (rollbackDeployment target 3 7 steadyRegistry
          (environmentChanges.foldl performHistory newImageApp).rows).2
        = some ⟨some 3, "app:1", 1, [("MODE", "second")]⟩ :=
    ⟨_, rfl, rfl, rfl⟩
  obtain ⟨target, chosen, isFirst, starts⟩ := target
  have started : StartRecord.mk (some 0) "app:1" 1 []
      ∈ (environmentChanges.foldl performHistory newImageApp).started :=
    List.mem_cons_self
  have same := (restores _ _ _ _ target _ _ 3 7 steadyRegistry ⟨⟨_, rfl⟩, rfl⟩
    environmentChanges_run chosen started (congrArg some isFirst.symm) starts).2
  cases same

end Blockhost.Deployments
