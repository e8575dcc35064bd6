import Blockhost.Library.Faults
import Blockhost.Runtime.DockerRuntime

/-! What a failed rollout leaves: the old containers alone where it fails before a container was
created, and a container too many from then on.
-/

namespace Blockhost.DockerRuntime

open Library

variable {calls : Calls} {request : StartRequest} {docker : Docker}

-- Before there is a container

/-- The network is neither there nor can it be created. -/
def networkFails (calls : Calls) : Bool :=
  match calls.networkGet with
  | none => false
  | some (.notFound _) =>
      match calls.networkCreate with
      | none => false
      | some failure => !(failure.isApiError && alreadyExists failure)
  | some _ => true

/-- The lookup, the pull and the network pass. -/
structure Prepared (calls : Calls) (request : StartRequest) : Prop where
  listed : calls.list = none
  pulled : calls.pull = none
  joined : (given request.projectId).isSome → networkFails calls = false

/-- A call raises before there is a new container. -/
def FailsBefore (calls : Calls) (request : StartRequest) : Prop :=
  ¬ Prepared calls request ∨ ∃ failure, calls.run = .refused failure

theorem ensureProjectNetwork_run (calls : Calls) (projectId : String) (docker : Docker)
    : networkFails calls = false
        ∧ ensureProjectNetwork calls projectId docker = .ok (networkName projectId) docker
      ∨ networkFails calls = true
        ∧ ∃ failure, ensureProjectNetwork calls projectId docker = .error failure docker := by
  unfold networkFails ensureProjectNetwork
  cases calls.networkGet with
  | none => exact .inl ⟨rfl, rfl⟩
  | some failure =>
      cases failure with
      | notFound explanation =>
          cases calls.networkCreate with
          | none => exact .inl ⟨rfl, rfl⟩
          | some refusal =>
              simp only
              cases refusal.isApiError && alreadyExists refusal with
              | true => exact .inl ⟨rfl, rfl⟩
              | false => exact .inr ⟨rfl, refusal, rfl⟩
      | apiError explanation => exact .inr ⟨rfl, _, rfl⟩
      | runtimeError message => exact .inr ⟨rfl, _, rfl⟩
      | other message => exact .inr ⟨rfl, _, rfl⟩

theorem raiseIf_none : raiseIf none docker = .ok () docker := rfl

theorem get_run : (get : DockerM Docker) docker = .ok docker docker := rfl

theorem pullImage_ok (image : String) (pulled : calls.pull = none)
    : pullImage calls image docker = .ok () docker := by
  simp only [pullImage, pulled]
  rfl

theorem pullImage_error {failure : Failure} (image : String)
    (raised : calls.pull = some failure)
    : ∃ other, pullImage calls image docker = .error other docker := by
  simp only [pullImage, raised]
  cases failure.isApiError with
  | true => exact ⟨_, rfl⟩
  | false => exact ⟨_, rfl⟩

theorem prepare_ok (prepared : Prepared calls request)
    : prepare calls request docker
      = .ok (findContainers request.deploymentId docker,
          (given request.projectId).map networkName) docker := by
  obtain ⟨listed, pulled, joined⟩ := prepared
  unfold prepare
  rw [listed, state_bind_run raiseIf_none, state_bind_run get_run,
    state_bind_run (pullImage_ok request.dockerImage pulled)]
  cases project : given request.projectId with
  | none => rfl
  | some projectId =>
      rw [project] at joined
      rcases ensureProjectNetwork_run calls projectId docker with ⟨_, found⟩ | ⟨fails, _⟩
      · exact state_bind_run found
      · rw [joined rfl] at fails
        cases fails

theorem prepare_error (unprepared : ¬ Prepared calls request)
    : ∃ failure, prepare calls request docker = .error failure docker := by
  unfold prepare
  cases listed : calls.list with
  | some failure => exact ⟨failure, rfl⟩
  | none =>
      rw [state_bind_run raiseIf_none, state_bind_run get_run]
      cases pulled : calls.pull with
      | some failure =>
          obtain ⟨other, failed⟩ := pullImage_error request.dockerImage pulled
          exact ⟨other, state_bind_error failed⟩
      | none =>
          have drawn : pullImage calls request.dockerImage docker = .ok () docker :=
            pullImage_ok request.dockerImage pulled
          cases project : given request.projectId with
          | none =>
              exact absurd ⟨listed, pulled, by rw [project]; nofun⟩ unprepared
          | some projectId =>
              rcases ensureProjectNetwork_run calls projectId docker with
                ⟨joined, _⟩ | ⟨_, failure, failed⟩
              · exact absurd ⟨listed, pulled, fun _ => joined⟩ unprepared
              · exact ⟨failure, (state_bind_run drawn).trans (state_bind_error failed)⟩

theorem startDeployment_failsBefore (early : FailsBefore calls request)
    : ∃ failure, startDeployment calls request docker = .error failure docker := by
  by_cases prepared : Prepared calls request
  · obtain ⟨failure, refused⟩ := early.resolve_left (not_not.mpr prepared)
    refine ⟨failure, ?_⟩
    unfold startDeployment
    rw [state_bind_run (prepare_ok prepared)]
    refine state_bind_error ?_
    simp only [runContainer, refused]
    rfl
  · obtain ⟨failure, failed⟩ : ∃ failure, prepare calls request docker = .error failure docker :=
      prepare_error prepared
    exact ⟨failure, state_bind_error failed⟩

-- From the new container on

/-- A container under an id belongs to the deployment. -/
def Has (deploymentId : String) (id : Nat) (docker : Docker) : Prop :=
  ∃ container ∈ docker.rows, container.id = id ∧ isLabelled deploymentId container = true

variable {deploymentId : String} {id : Nat}

theorem Has.setStatus (has : Has deploymentId id docker) (other : Nat)
    (status : ContainerStatus)
    : Has deploymentId id (setStatus other status docker) := by
  obtain ⟨container, member, same, labelled⟩ := has
  refine ⟨_, List.mem_map_of_mem member, ?_, ?_⟩
  all_goals
    by_cases target : container.id = other
    · rw [Change.at_same _ target]
      assumption
    · rw [Change.at_other _ target]
      assumption

theorem Has.remove (has : Has deploymentId id docker) {other : Nat} (differs : other ≠ id)
    : Has deploymentId id (docker.filter (·.id ≠ other)) := by
  obtain ⟨container, member, same, labelled⟩ := has
  refine ⟨container, ?_, same, labelled⟩
  rw [Table.rows_filter, List.mem_filter]
  exact ⟨member, by simpa [same] using differs.symm⟩

theorem has_create (config : RunConfig) (now : Int) (status : ContainerStatus)
    (labelled : config.labels.lookup labelDeploymentId = some deploymentId)
    : Has deploymentId docker.freshKey (docker.create (newContainer config now status)) := by
  refine ⟨(newContainer config now status).make docker.freshKey, ?_, rfl, ?_⟩
  · rw [Table.rows_create]
    exact List.mem_append_right _ List.mem_cons_self
  · exact decide_eq_true labelled

theorem runKwargs_labelled (request : StartRequest) (network : Option String)
    : (runKwargs request network).labels.lookup labelDeploymentId
      = some request.deploymentId := by
  rfl

theorem keeps_answer {α : Type} (outcome : Except Failure α)
    : Keeps (Carries (Has deploymentId id)) (answer outcome) := by
  cases outcome with
  | ok value => exact Keeps.pure value
  | error failure => exact Keeps.throw failure

theorem keeps_reload (other : Nat) (status : Except Failure ContainerStatus)
    : Keeps (Carries (Has deploymentId id)) (reload other status) :=
  (keeps_answer status).bind fun _ =>
    (keeps_modify fun _ has => has.setStatus _ _).bind fun _ => Keeps.pure _

theorem keeps_mustRun (message : String) (logs : Except Failure String)
    (status : ContainerStatus)
    : Keeps (Carries (Has deploymentId id)) (mustRun message logs status) :=
  keeps_ite (Keeps.pure ()) ((keeps_answer logs).bind fun _ => Keeps.throw _)

theorem keeps_healthRound (other : Nat) (round : HealthRound)
    : Keeps (Carries (Has deploymentId id)) (healthRound other round) :=
  (keeps_reload other round.status).bind fun status =>
    (keeps_mustRun _ round.logs status).bind fun _ => Keeps.pure _

/-- By induction on the rounds. -/
theorem keeps_waitForHttpHealth (other : Nat) (url : String) (lastError : String)
    (rounds : List HealthRound)
    : Keeps (Carries (Has deploymentId id))
      (waitForHttpHealth calls other url lastError rounds) := by
  induction rounds generalizing lastError with
  | nil => exact (keeps_answer calls.finalLogs).bind fun _ => Keeps.throw _
  | cons round rounds ih =>
      refine (keeps_healthRound other round).bind fun result => ?_
      cases result with
      | ok passed => exact Keeps.pure ()
      | error text => exact ih text

theorem keeps_confirmRunning (other : Nat)
    : Keeps (Carries (Has deploymentId id)) (confirmRunning calls request other) := by
  refine (keeps_answer calls.hostPort).bind fun hostPort =>
    (keeps_reload other calls.settled).bind fun status =>
      (keeps_mustRun _ calls.settledLogs status).bind fun _ => ?_
  cases given request.healthCheckPath with
  | none => exact Keeps.pure _
  | some path =>
      cases hostPort.filter (· ≠ 0) with
      | none => exact Keeps.pure _
      | some port =>
          exact (keeps_waitForHttpHealth other _ _ _).bind fun _ => Keeps.pure _

theorem keeps_perform {change : Docker → Docker} (outcome : Outcome)
    (keeps : ∀ docker, Has deploymentId id docker → Has deploymentId id (change docker))
    : Keeps (Carries (Has deploymentId id)) (perform outcome change) := by
  cases outcome with
  | passes => exact keeps_modify keeps
  | raises failure done =>
      exact ((keeps_modify keeps).onlyIf done).bind fun _ => Keeps.throw failure

theorem keeps_passOver {action : DockerM Unit}
    (keeps : Keeps (Carries (Has deploymentId id)) action)
    : Keeps (Carries (Has deploymentId id)) (passOver action) :=
  keeps.tryCatch fun failure => keeps_ite (Keeps.pure ()) (Keeps.throw failure)

theorem keeps_removeOld {old : Container} (differs : old.id ≠ id)
    : Keeps (Carries (Has deploymentId id)) (removeOld calls old) :=
  (keeps_passOver (keeps_perform _ fun _ has => has.setStatus _ _)).bind fun _ =>
    keeps_passOver (keeps_perform _ fun _ has => has.remove differs)

theorem rollOut_leaves_new {oldContainers : List Container} (network : Option String)
    (old : ∀ container ∈ oldContainers, container ∈ docker.rows)
    (granted : ¬ ∃ failure, calls.run = .refused failure)
    : Has request.deploymentId docker.freshKey
        (finalState (rollOut calls request oldContainers network docker)) := by
  have labelled := runKwargs_labelled request network
  unfold rollOut
  cases ran : calls.run with
  | refused failure => exact absurd ⟨failure, ran⟩ granted
  | unstarted failure =>
      have created : runContainer calls (runKwargs request network) request.now docker
          = .error failure
            (docker.create
              (newContainer (runKwargs request network) request.now .created)) := by
        simp only [runContainer, ran]
        rfl
      rw [state_bind_error created]
      exact has_create _ _ _ labelled
  | started status =>
      have created : runContainer calls (runKwargs request network) request.now docker
          = .ok docker.freshKey
            (docker.create (newContainer (runKwargs request network) request.now status)) := by
        simp only [runContainer, ran]
        rfl
      rw [state_bind_run created]
      refine ((keeps_confirmRunning _).bind fun hostPort =>
        (Keeps.forM ?_).bind fun _ => Keeps.pure _) _ (has_create _ _ _ labelled)
      intro container member
      refine keeps_removeOld fun same => docker.freshKey_notMem ?_
      exact same ▸ List.mem_map_of_mem (old container member)

theorem startDeployment_leaves_new (late : ¬ FailsBefore calls request)
    : Has request.deploymentId docker.freshKey
        (finalState (startDeployment calls request docker)) := by
  obtain ⟨prepared, granted⟩ := not_or.mp late
  rw [not_not] at prepared
  unfold startDeployment
  rw [state_bind_run (prepare_ok prepared)]
  exact rollOut_leaves_new _ (fun _ member => (List.mem_filter.mp member).1) granted

-- The old container

/-- A container runs, and the deployment has no other one. -/
structure ServesAlone (deploymentId : String) (serving : Container) (docker : Docker)
    : Prop where
  running : serving.status = .running
  alone : findContainers deploymentId docker = [serving]

/-- A rollout that fails leaves the serving container running, and alone, exactly when it fails
before it created a container and there was no other one before.
-/
theorem failed_rollout_keeps_old_iff {serving : Container} {failure : Failure}
    {after : Docker} (known : serving ∈ findContainers request.deploymentId docker)
    (running : serving.status = .running)
    (failed : startDeployment calls request docker = .error failure after)
    : ServesAlone request.deploymentId serving after
      ↔ FailsBefore calls request
        ∧ findContainers request.deploymentId docker = [serving] := by
  by_cases early : FailsBefore calls request
  · obtain ⟨other, stopped⟩
        : ∃ other, startDeployment calls request docker = .error other docker :=
      startDeployment_failsBefore early
    cases failed.symm.trans stopped
    exact ⟨fun serves => ⟨early, serves.alone⟩, fun ⟨_, alone⟩ => ⟨running, alone⟩⟩
  · refine iff_of_false ?_ fun both => early both.1
    intro serves
    have left
        : Has request.deploymentId docker.freshKey
            (finalState (startDeployment calls request docker)) :=
      startDeployment_leaves_new early
    rw [failed] at left
    obtain ⟨container, member, fresh, labelled⟩ := left
    have same : container = serving := by
      rw [← List.mem_singleton, ← serves.alone]
      exact List.mem_filter.mpr ⟨member, labelled⟩
    have stored := (List.mem_filter.mp known).1
    exact docker.freshKey_notMem (fresh ▸ same ▸ List.mem_map_of_mem stored)

/-- A rollout of a deployment that checks the health of the new container. -/
def checkedRequest : StartRequest where
  deploymentId := "shop"
  dockerImage := "shop:2"
  internalPort := 8080
  healthCheckPath := some "/health"
  revisionId := "0a1b2c3d"
  now := 2

def servingContainer : Container where
  id := 1
  config :=
    runKwargs { checkedRequest with dockerImage := "shop:1", revisionId := "11111111" } none
  status := .running
  created := 1

def servingDocker : Docker := ⟨[servingContainer], List.nodup_singleton _⟩

/-- A pull that fails leaves the serving container alone. -/
theorem failed_pull_keeps_old
    : ServesAlone "shop" servingContainer
        (finalState (startDeployment
          { pull := some (.apiError "no such image"), hostPort := .ok none } checkedRequest
          servingDocker)) := by
  obtain ⟨failure, failed⟩ : ∃ failure, startDeployment
      { pull := some (.apiError "no such image"), hostPort := .ok none } checkedRequest
      servingDocker = .error failure servingDocker :=
    ⟨_, rfl⟩
  rw [failed]
  exact (failed_rollout_keeps_old_iff (by decide) rfl failed).mpr
    ⟨.inl (fun prepared => nomatch prepared.pulled), by decide⟩

/-- The application answers the health check with errors until its deadline: the new container
runs on beside the serving one, and is the one that lookups find.
-/
theorem failed_health_check_leaves_new_container
    : let calls : Calls :=
        { hostPort := .ok (some 49153), rounds := [⟨.ok .running, .ok "", .ok 500⟩] }
      ∃ failure after,
        startDeployment calls checkedRequest servingDocker = .error failure after
        ∧ servingContainer ∈ findContainers "shop" servingDocker
        ∧ servingContainer.status = .running
        ∧ ¬ ServesAlone "shop" servingContainer after
        ∧ (findActiveContainer "shop" after).map Container.id = some 2 := by
  refine ⟨_, _, rfl, by decide, rfl, fun serves => ?_, by decide⟩
  exact absurd serves.alone (by decide)

end Blockhost.DockerRuntime
