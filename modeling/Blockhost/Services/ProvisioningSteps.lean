import Blockhost.Services.ResourceProvisioning

/-! The work of an attempt to provision a resource, as a list of steps with their effects. -/

namespace Blockhost.ResourceProvisioning

open Library
open Deployments (Rows)

variable {Data : Type} {attempt : Attempt} {stores : Commit → Data → Data}
variable {work : UnitOfWork Data} {steps : List Step}

-- Steps

def effect (stores : Commit → Data → Data) : Step → UnitOfWork Data → UnitOfWork Data
  | .commit place, work => (work.change (stores place)).flush
  | _, work => work

def torn (attempt : Attempt) (step : Step) (work : UnitOfWork Data) : UnitOfWork Data :=
  if attempt.breaksSession step then work.spoil else work

/-- From a state on, a computation does some steps. -/
abbrev Does (attempt : Attempt) (stores : Commit → Data → Data) (steps : List Step)
    (work : UnitOfWork Data) (computation : ProvisionM Data Unit)
    : Prop :=
  Performs attempt.outcome (effect stores) (torn attempt) steps work computation

theorem effect_usable (step : Step) (usable : work.usable = true)
    : (effect stores step work).usable = true := by
  cases step with
  | commit place => rfl
  | _ => exact usable

theorem effect_plain {step : Step} (plain : step.isCommit = false)
    : effect stores step work = work := by
  cases step with
  | commit place => cases plain
  | _ => rfl

theorem does_query {step : Step} (usable : work.usable = true) (isQuery : step.isQuery = true)
    : Does attempt stores [step] work (query attempt step) := by
  have plain : step.isCommit = false := by
    cases step with
    | commit place => cases isQuery
    | _ => rfl
  refine performs_single ?_ ?_
  · intro passed
    simp only [query, usable, if_true, passed, effect_plain plain]
  · intro failure raised
    simp only [query, usable, if_true, raised, torn]

theorem does_store {place : Commit} (usable : work.usable = true)
    : Does attempt stores [.commit place] work (store attempt stores place) := by
  refine performs_single ?_ ?_
  · intro passed
    simp only [store, usable, if_true, passed, effect]
  · intro failure raised
    simp only [store, usable, if_true, raised, torn, Attempt.breaksSession, Step.isCommit,
      Bool.true_or]

theorem does_call {step : Step} (plain : step.isCommit = false) (noQuery : step.isQuery = false)
    : Does attempt stores [step] work (call attempt step) := by
  refine performs_attempt (effect_plain plain).symm ?_
  simp [torn, Attempt.breaksSession, plain, noQuery]

theorem does_giveUp (message : String)
    : Does attempt stores [.giveUp message] work (throw (.raised message)) :=
  performs_single (fun passed => nomatch passed) (by rintro _ ⟨⟩; rfl)

theorem does_wait : Does attempt stores [.wait] work (throw .waiting) :=
  performs_single (fun passed => nomatch passed) (by rintro _ ⟨⟩; rfl)

-- Placement

def placementSteps (attempt : Attempt) (nodeId : Option Uuid) (ramLimitMb : Int) : List Step :=
  match nodeId with
  | none =>
      .selectNode
      :: match selectBestNode attempt.settings attempt.db attempt.now ramLimitMb with
        | none => [.giveUp "No available nodes with sufficient capacity"]
        | some node => [.commit (.assignNode node.id), .reload (.assignNode node.id)]
  | some nodeId =>
      .loadNode
      :: if (attempt.db.nodes.get? nodeId).isNone then
          [.giveUp ("Assigned node " ++ uuidText nodeId ++ " no longer exists")]
        else []

theorem does_placeWorkload (nodeId : Option Uuid) (ramLimitMb : Int)
    (usable : work.usable = true)
    : Does attempt stores (placementSteps attempt nodeId ramLimitMb) work
        (placeWorkload attempt stores nodeId ramLimitMb) := by
  cases nodeId with
  | none =>
      refine (does_query usable rfl).cons ?_
      cases selectBestNode attempt.settings attempt.db attempt.now ramLimitMb with
      | none => exact does_giveUp _
      | some node => exact (does_store usable).cons (does_query rfl rfl)
  | some nodeId =>
      refine (does_query usable rfl).cons ?_
      exact performs_ite (fun _ => does_giveUp _) (fun _ => performs_pure)

-- The work on a deployment

variable {rows : Rows}

def ensureSteps (state : DeploymentState) : List Step :=
  if state = .building then [] else [.commit .markBuilding, .reload .markBuilding]

def conclusionSteps (rows : Rows) : BuildStatus → List Step
  | .success imageTag =>
      if imageTag.getD "" = "" then []
      else
        [.commit (.recordBuild (imageTag.getD "")), .reload (.recordBuild (imageTag.getD ""))]
  | .error text =>
      if (revisionOf rows).isSome then
        [.commit (.recordBuildError (buildError text)), .giveUp (buildError text)]
      else [.giveUp (buildError text)]
  | .unknown => [.giveUp "GitHub build status unknown."]
  | .other => []

def pollSteps (rows : Rows) : Nat → List BuildStatus → List Step
  | _, [] => [.wait]
  | round, .other :: later => .poll round :: pollSteps rows (round + 1) later
  | round, status :: _ => .poll round :: conclusionSteps rows status

def placedState (attempt : Attempt) (rows : Rows) : DeploymentState :=
  if rows.deployment.nodeId.isNone
      && (selectBestNode attempt.settings attempt.db attempt.now
        rows.deployment.ramLimitMb).isSome then
    .building
  else rows.deployment.state

def buildSteps (attempt : Attempt) (rows : Rows) : List Step :=
  if rows.deployment.githubRepoUrl.getD "" = "" then []
  else
    .requestBuild
    :: (ensureSteps (placedState attempt rows) ++ pollSteps rows 0 attempt.builds)

def deploymentSteps (attempt : Attempt) (rows : Rows) : List Step :=
  placementSteps attempt rows.deployment.nodeId rows.deployment.ramLimitMb
    ++ (.latestRevision
      :: (buildSteps attempt rows
        ++ [.startContainer, .commit .recordStart, .reload .recordStart, .loadDomains]))

theorem does_concludeBuild (status : BuildStatus) {work : UnitOfWork Rows}
    (usable : work.usable = true)
    : Does attempt (deploymentStores attempt rows) (conclusionSteps rows status) work
        (concludeBuild attempt rows status) := by
  cases status with
  | success imageTag =>
      refine performs_ite (fun _ => performs_pure) (fun _ => ?_)
      exact (does_store usable).cons (does_query rfl rfl)
  | error text =>
      refine performs_ite (fun _ => ?_) (fun _ => does_giveUp _)
      exact (does_store usable).cons (does_giveUp _)
  | unknown => exact does_giveUp _
  | other => exact performs_pure

theorem pollBuild_eq (attempt : Attempt) (rows : Rows) (round : Nat)
    (statuses : List BuildStatus)
    : ∃ rest,
        pollBuild attempt rows round statuses = (do ensureBuilding attempt rows; rest) := by
  match statuses with
  | [] => exact ⟨_, rfl⟩
  | .other :: _ => exact ⟨_, rfl⟩
  | .success _ :: _ => exact ⟨_, rfl⟩
  | .error _ :: _ => exact ⟨_, rfl⟩
  | .unknown :: _ => exact ⟨_, rfl⟩

theorem ensureBuilding_building {work : UnitOfWork Rows}
    (building : work.current.deployment.state = .building)
    : ensureBuilding attempt rows work = .ok () work := by
  unfold ensureBuilding
  rw [if_pos building]

/-- The polls of a building deployment, by induction on the answers. -/
theorem does_pollBuild_building (attempt : Attempt) (rows : Rows) (round : Nat)
    (statuses : List BuildStatus) {work : UnitOfWork Rows} (usable : work.usable = true)
    (building : work.current.deployment.state = .building)
    : Does attempt (deploymentStores attempt rows) (pollSteps rows round statuses) work
        (pollBuild attempt rows round statuses) := by
  have ensured : ensureBuilding attempt rows work = .ok () work :=
    ensureBuilding_building building
  have ends (round : Nat) (status : BuildStatus)
      : Does attempt (deploymentStores attempt rows)
          (.poll round :: conclusionSteps rows status) work
          (do call attempt (.poll round); concludeBuild attempt rows status) :=
    (does_call rfl rfl).cons (does_concludeBuild status usable)
  induction statuses generalizing round with
  | nil =>
      have waits : Does attempt (deploymentStores attempt rows) [.wait] work (throw .waiting) :=
        does_wait
      exact waits.of_run (state_bind_run ensured)
  | cons status later ih =>
      cases status with
      | other =>
          have polls : Does attempt (deploymentStores attempt rows)
              (pollSteps rows round (.other :: later)) work
              (do call attempt (.poll round); pollBuild attempt rows (round + 1) later) :=
            (does_call rfl rfl).cons (ih (round + 1))
          exact polls.of_run (state_bind_run ensured)
      | success imageTag => exact (ends round _).of_run (state_bind_run ensured)
      | error text => exact (ends round _).of_run (state_bind_run ensured)
      | unknown => exact (ends round _).of_run (state_bind_run ensured)

theorem does_ensureBuilding {work : UnitOfWork Rows} (usable : work.usable = true)
    : Does attempt (deploymentStores attempt rows)
        (ensureSteps work.current.deployment.state) work (ensureBuilding attempt rows) := by
  unfold ensureSteps
  split
  · rename_i building
    exact performs_pure.of_run (ensureBuilding_building building)
  · rename_i idle
    have marks : Does attempt (deploymentStores attempt rows)
        [.commit .markBuilding, .reload .markBuilding] work
        (do store attempt (deploymentStores attempt rows) .markBuilding
            query attempt (.reload .markBuilding)) :=
      (does_store usable).cons (does_query rfl rfl)
    refine marks.of_run ?_
    unfold ensureBuilding
    rw [if_neg idle]

theorem ensureSteps_building (attempt : Attempt) (rows : Rows) {work : UnitOfWork Rows}
    (usable : work.usable = true)
    : let reached := advance (effect (deploymentStores attempt rows))
        (ensureSteps work.current.deployment.state) work
      reached.usable = true ∧ reached.current.deployment.state = .building := by
  unfold ensureSteps
  split
  · exact ⟨usable, ‹_›⟩
  · exact ⟨rfl, rfl⟩

theorem does_pollBuild (round : Nat) (statuses : List BuildStatus) {work : UnitOfWork Rows}
    (usable : work.usable = true)
    : Does attempt (deploymentStores attempt rows)
        (ensureSteps work.current.deployment.state ++ pollSteps rows round statuses) work
        (pollBuild attempt rows round statuses) := by
  obtain ⟨rest, same⟩ := pollBuild_eq attempt rows round statuses
  have skips : ∀ middle : UnitOfWork Rows, middle.current.deployment.state = .building
      → (do ensureBuilding attempt rows; rest) middle = rest middle :=
    fun middle building => state_bind_run (ensureBuilding_building building)
  obtain ⟨reached, building⟩ := ensureSteps_building attempt rows usable
  have later := does_pollBuild_building attempt rows round statuses reached building
  rw [same] at later ⊢
  exact (does_ensureBuilding usable).bind (later.of_run (skips _ building).symm)

theorem advance_usable (usable : work.usable = true)
    : (advance (effect stores) steps work).usable = true :=
  advance_keeps (fun state : UnitOfWork Data => state.usable = true)
    (fun step _ _ => effect_usable step) usable

theorem placedState_eq (attempt : Attempt) (rows : Rows)
    : (advance (effect (deploymentStores attempt rows))
        (placementSteps attempt rows.deployment.nodeId rows.deployment.ramLimitMb)
        { committed := rows }).current.deployment.state
      = placedState attempt rows := by
  unfold placementSteps placedState
  cases assigned : rows.deployment.nodeId with
  | none =>
      cases selectBestNode attempt.settings attempt.db attempt.now
          rows.deployment.ramLimitMb with
      | none => rfl
      | some node =>
          simp [effect, deploymentStores, Deployments.assignNode, assigned, UnitOfWork.current,
            UnitOfWork.change, UnitOfWork.flush]
  | some nodeId =>
      dsimp only
      split <;> rfl

theorem does_buildFromGithub (attempt : Attempt) (rows : Rows) {work : UnitOfWork Rows}
    (usable : work.usable = true)
    (placed : work.current.deployment.state = placedState attempt rows)
    : Does attempt (deploymentStores attempt rows) (buildSteps attempt rows) work
        (buildFromGithub attempt rows) := by
  refine performs_ite (fun _ => performs_pure) (fun _ => ?_)
  rw [← placed]
  exact (does_call rfl rfl).cons (does_pollBuild 0 attempt.builds usable)

theorem does_runDeployment (attempt : Attempt) (rows : Rows)
    : Does attempt (deploymentStores attempt rows) (deploymentSteps attempt rows)
        { committed := rows } (runDeployment attempt rows) := by
  refine (does_placeWorkload _ _ rfl).bind ?_
  have placed := placedState_eq attempt rows
  have usable : (advance (effect (deploymentStores attempt rows))
      (placementSteps attempt rows.deployment.nodeId rows.deployment.ramLimitMb)
      { committed := rows }).usable = true :=
    advance_usable rfl
  refine (does_query usable rfl).cons ?_
  refine (does_buildFromGithub attempt rows usable placed).bind ?_
  refine (does_call rfl rfl).cons ?_
  refine (does_store (advance_usable usable)).cons ?_
  exact (does_query rfl rfl).cons (does_query rfl rfl)

-- The work on a database and on a server

def databaseSteps (attempt : Attempt) (database : DatabaseInstance) : List Step :=
  placementSteps attempt database.nodeId database.ramLimitMb
    ++ [.startContainer, .commit .recordStart, .reload .recordStart]

theorem does_runDatabase (attempt : Attempt) (database : DatabaseInstance)
    : Does attempt databaseStores (databaseSteps attempt database) { committed := database }
        (runDatabase attempt database) := by
  refine (does_placeWorkload _ _ rfl).bind ?_
  refine (does_call rfl rfl).cons ?_
  exact (does_store (advance_usable rfl)).cons (does_query rfl rfl)

def serverSteps (attempt : Attempt) (server : Server) : List Step :=
  .checkLaunch
  :: match checkLaunch attempt.settings attempt.now attempt.lookedUp server.id attempt.db with
    | .error _ => [.giveUp "the checks of start_server"]
    | .ok _ => [.startContainer, .attachListener, .commit .recordStart]

theorem does_startServer (attempt : Attempt) (server : Server)
    : Does attempt (serverStores attempt) (serverSteps attempt server) { committed := server }
        (startServer attempt server) := by
  refine (does_query rfl rfl).cons ?_
  cases checkLaunch attempt.settings attempt.now attempt.lookedUp server.id attempt.db with
  | error refusal => exact does_giveUp _
  | ok row => exact (does_call rfl rfl).cons ((does_call rfl rfl).cons (does_store rfl))

end Blockhost.ResourceProvisioning
