import Blockhost.Services.ProvisioningSteps

/-! What an attempt to provision a resource leaves, read off from the first step that raises. -/

namespace Blockhost.ResourceProvisioning

open Library
open Deployments (Rows)

variable {Data : Type} {attempt : Attempt} {stores : Commit → Data → Data}
variable {work : UnitOfWork Data} {steps : List Step} {rows : Rows}

-- What the handlers leave

def storedAfter (stores : Commit → Data → Data) (steps : List Step) (data : Data) : Data :=
  (advance (effect stores) steps { committed := data }).committed

/-- The first step that raises ends an attempt well: the session survives it and the handler gets
through, or the row holds the same failure already and no step before has changed it.
-/
def Recovers (attempt : Attempt) (failed : String → Data → Prop) (queries before : List Step)
    (step : Step) (failure : Failure) (data : Data)
    : Prop :=
  ∃ message,
    failure = .raised message
    ∧ (attempt.breaksSession step = false
        ∧ AllPass attempt.outcome (queries ++ [.commit (.recordFailure message)])
      ∨ failed message data ∧ ∀ earlier ∈ before, earlier.isCommit = false)

def EndsWell (attempt : Attempt) (failed : String → Data → Prop) (queries steps : List Step)
    (data : Data)
    : Prop :=
  (∀ message, attempt.raises .loadRow = some message → failed message data)
  ∧ (attempt.raises .loadRow = none
    → ∀ before step failure, FirstRaise attempt.outcome steps before step failure
      → Recovers attempt failed queries before step failure data)

/-- Steps without commits change nothing, by induction on the steps. -/
theorem advance_plain (plain : ∀ step ∈ steps, step.isCommit = false)
    : advance (effect stores) steps work = work := by
  induction steps with
  | nil => rfl
  | cons step rest ih =>
      obtain ⟨first, later⟩ := List.forall_mem_cons.mp plain
      rw [advance_cons, effect_plain first]
      exact ih later

theorem advance_clean (clean : work.changes = id)
    : (advance (effect stores) steps work).changes = id := by
  refine advance_keeps (fun state : UnitOfWork Data => state.changes = id) ?_ clean
  intro step _ state held
  cases step with
  | commit place => rfl
  | _ => exact held

@[simp] theorem torn_committed (step : Step)
    : (torn attempt step work).committed = work.committed := by
  unfold torn
  split <;> rfl

theorem query_loadRow_error {message : String} {next : ProvisionM Data Unit} {data : Data}
    (raised : attempt.raises .loadRow = some message)
    : (do query attempt .loadRow; next : ProvisionM Data Unit) { committed := data }
      = .error (.raised message) (torn attempt .loadRow { committed := data }) := by
  refine state_bind_error ?_
  simp only [query, if_true, Attempt.outcome, raised, Option.map_some, torn]

theorem query_loadRow_ok {next : ProvisionM Data Unit} {data : Data}
    (passed : attempt.raises .loadRow = none)
    : (do query attempt .loadRow; next : ProvisionM Data Unit) { committed := data }
      = next { committed := data } := by
  have loaded : query attempt .loadRow ({ committed := data } : UnitOfWork Data)
      = .ok () { committed := data } := by
    simp only [query, if_true, Attempt.outcome, passed, Option.map_none]
  exact state_bind_run loaded

section Handlers

variable {body : ProvisionM Data Unit} {handler : String → ProvisionM Data Unit}
variable {running : Data → Prop} {failed : String → Data → Prop} {queries : List Step}
variable {data : Data}

/-- A handler whose queries change nothing commits the failure, or leaves the rows alone. -/
structure Handles (attempt : Attempt) (stores : Commit → Data → Data) (queries : List Step)
    (handler : String → ProvisionM Data Unit)
    : Prop where
  plain : ∀ step ∈ queries, step.isCommit = false
  raises : ∀ step ∈ queries, attempt.outcome step ≠ some .waiting
  does
    : ∀ message (work : UnitOfWork Data), work.usable = true
      → Does attempt stores (queries ++ [.commit (.recordFailure message)]) work
          (handler message)
  refuses
    : ∀ message (work : UnitOfWork Data), work.usable = false
      → handler message work = .error pendingRollback work

theorem Handles.leaves (handles : Handles attempt stores queries handler) {message : String}
    (usable : work.usable = true) (clean : work.changes = id)
    : AllPass attempt.outcome (queries ++ [.commit (.recordFailure message)])
        ∧ (∃ after, handler message work = .ok () after
          ∧ after.committed = stores (.recordFailure message) work.committed)
      ∨ ¬ AllPass attempt.outcome (queries ++ [.commit (.recordFailure message)])
        ∧ ∃ text after, handler message work = .error (.raised text) after
          ∧ after.committed = work.committed := by
  have does := handles.does message work usable
  have same : advance (effect stores) queries work = work := advance_plain handles.plain
  rcases allPass_or_firstRaise attempt.outcome (queries ++ [.commit (.recordFailure message)])
    with passes | ⟨before, step, failure, first⟩
  · refine .inl ⟨passes, _, does.passes passes, ?_⟩
    rw [advance_append, same, advance_cons, advance_nil]
    simp [effect, UnitOfWork.current, UnitOfWork.change, clean]
  · refine .inr ⟨first.not_allPass, ?_⟩
    have raised : ∃ text, failure = .raised text := by
      cases failure with
      | raised text => exact ⟨text, rfl⟩
      | waiting =>
          rcases List.mem_append.mp first.mem with early | last
          · exact absurd first.raised (handles.raises step early)
          · rw [List.mem_singleton.mp last] at first
            have never := first.raised
            simp [Attempt.outcome] at never
    obtain ⟨text, rfl⟩ := raised
    refine ⟨text, _, does.fails first, ?_⟩
    have kept : advance (effect stores) before work = work := by
      refine advance_plain ?_
      intro earlier member
      rcases first.of_append with inner | ⟨_, rest, rfl, inner⟩
      · exact handles.plain earlier (inner.mem_before member)
      · rcases List.mem_append.mp member with early | late
        · exact handles.plain earlier early
        · rw [inner.of_single.1] at late
          cases late
    rw [torn_committed, kept]

theorem concludes_at {steps : List Step}
    (works : Does attempt stores steps { committed := data } body)
    (handles : Handles attempt stores queries handler)
    (records : ∀ message rows, failed message (stores (.recordFailure message) rows))
    (moved
      : ∀ before later, steps = before ++ later → (∃ step ∈ before, step.isCommit = true)
        → ∀ message, ¬ failed message (storedAfter stores before data))
    (passed : attempt.raises .loadRow = none)
    {before : List Step} {step : Step} {failure : Failure}
    (first : FirstRaise attempt.outcome steps before step failure)
    : Concludes (do query attempt .loadRow; guarded body handler)
        (do query attempt .loadRow; body) running failed data
      ↔ Recovers attempt failed queries before step failure data := by
  have ran := works.fails first
  unfold Concludes provisionResource
  rw [query_loadRow_ok passed, query_loadRow_ok passed, ran]
  cases failure with
  | waiting => exact iff_of_false id (fun recovers => nomatch recovers.choose_spec.1)
  | raised message =>
      have handling : guarded body handler { committed := data }
          = handler message
              (torn attempt step (advance (effect stores) before { committed := data })) := by
        unfold guarded
        rw [tryCatch_error ran]
      -- A failure in the rows without the handler is one that was there before.
      have earlier : failed message (storedAfter stores before data)
          ↔ failed message data ∧ ∀ earlier ∈ before, earlier.isCommit = false := by
        by_cases plain : ∀ earlier ∈ before, earlier.isCommit = false
        · have same : storedAfter stores before data = data :=
            congrArg UnitOfWork.committed (advance_plain plain)
          rw [same]
          exact ⟨fun recorded => ⟨recorded, plain⟩, And.left⟩
        · refine iff_of_false ?_ (fun both => plain both.2)
          obtain ⟨later, split⟩ := first.split
          refine moved before _ split ?_ message
          simpa using plain
      simp only [handling]
      cases breaks : attempt.breaksSession step with
      | true =>
          have left := handles.refuses message
            (torn attempt step (advance (effect stores) before { committed := data }))
            (by simp [torn, breaks])
          rw [left]
          simp only [pendingRollback, Recovers, breaks, Bool.true_eq_false, false_and, false_or,
            Option.some.injEq, exists_eq_left', torn_committed, Failure.raised.injEq]
          exact earlier
      | false =>
          have same : torn attempt step (advance (effect stores) before { committed := data })
              = advance (effect stores) before { committed := data } := by
            simp [torn, breaks]
          rw [same]
          have usable : (advance (effect stores) before { committed := data }).usable = true :=
            advance_usable rfl
          have clean : (advance (effect stores) before { committed := data }).changes = id :=
            advance_clean rfl
          rcases handles.leaves usable clean
            with ⟨passes, after, done, stored⟩ | ⟨stuck, text, after, done, stored⟩
          · rw [done]
            refine iff_of_true ⟨_, rfl, stored ▸ records message _⟩ ?_
            exact ⟨message, rfl, .inl ⟨breaks, passes⟩⟩
          · rw [done]
            simp only [Recovers, breaks, true_and, Option.some.injEq, exists_eq_left', stored,
              Failure.raised.injEq, stuck, false_or]
            exact earlier

theorem concludes_iff {steps : List Step}
    (works : Does attempt stores steps { committed := data } body)
    (handles : Handles attempt stores queries handler)
    (records : ∀ message rows, failed message (stores (.recordFailure message) rows))
    (moved
      : ∀ before later, steps = before ++ later → (∃ step ∈ before, step.isCommit = true)
        → ∀ message, ¬ failed message (storedAfter stores before data))
    (runs : running (storedAfter stores steps data))
    : Concludes (do query attempt .loadRow; guarded body handler)
        (do query attempt .loadRow; body) running failed data
      ↔ EndsWell attempt failed queries steps data := by
  cases loaded : attempt.raises .loadRow with
  | some message =>
      unfold Concludes provisionResource
      rw [query_loadRow_error loaded, query_loadRow_error loaded]
      simp only [torn_committed, Option.some.injEq, exists_eq_left', EndsWell, loaded,
        forall_eq', reduceCtorEq, false_implies, and_true]
  | none =>
      rcases allPass_or_firstRaise attempt.outcome steps
        with passes | ⟨before, step, failure, first⟩
      · refine iff_of_true ?_ ⟨by simp [loaded], ?_⟩
        · have ran := works.passes passes
          have through : guarded body handler { committed := data }
              = .ok () (advance (effect stores) steps { committed := data }) :=
            tryCatch_ok ran
          unfold Concludes provisionResource
          rw [query_loadRow_ok loaded, query_loadRow_ok loaded, ran, through]
          exact ⟨_, rfl, runs⟩
        · intro _ before step failure first
          exact absurd passes first.not_allPass
      · constructor
        · intro concludes
          refine ⟨by simp [loaded], ?_⟩
          intro _ before step failure first
          exact (concludes_at works handles records moved loaded first).mp concludes
        · intro ends
          exact (concludes_at works handles records moved loaded first).mpr
            (ends.2 loaded before step failure first)

theorem good_after (good : Data → Prop) {steps : List Step}
    (keeps
      : ∀ place, .commit place ∈ steps → ∀ rows, good rows → good (stores place rows))
    (opens
      : good data
        ∨ ∃ plain place rest,
            steps = plain ++ .commit place :: rest
            ∧ (∀ step ∈ plain, step.isCommit = false)
            ∧ good (stores place data))
    {before later : List Step} (split : steps = before ++ later)
    (moves : ∃ step ∈ before, step.isCommit = true)
    : good (storedAfter stores before data) := by
  have kept : ∀ (taken : List Step), (∀ step ∈ taken, step ∈ steps)
      → ∀ reached : UnitOfWork Data, reached.changes = id → good reached.committed
      → good (advance (effect stores) taken reached).committed := by
    intro taken
    induction taken with
    | nil => exact fun _ _ _ held => held
    | cons step taken ih =>
        intro listed reached clean held
        obtain ⟨first, others⟩ := List.forall_mem_cons.mp listed
        rw [advance_cons]
        cases step with
        | commit place =>
            refine ih others _ rfl ?_
            have now : (effect stores (.commit place) reached).committed
                = stores place reached.committed := by
              simp [effect, UnitOfWork.current, UnitOfWork.change, clean]
            rw [now]
            exact keeps place first _ held
        | _ => exact ih others _ clean held
  rcases opens with start | ⟨plain, place, rest, shape, quiet, first⟩
  · exact kept before (fun step member => split ▸ List.mem_append_left _ member) _ rfl start
  · -- The steps before reach the first commit, since they have one.
    rw [shape] at split
    rcases List.append_eq_append_iff.mp split with ⟨taken, rfl, same⟩ | ⟨missing, same, _⟩
    · cases taken with
      | nil =>
          obtain ⟨step, member, commits⟩ := moves
          rw [List.append_nil] at member
          simp [quiet step member] at commits
      | cons step taken =>
          obtain ⟨rfl, same⟩ := List.cons.inj same
          unfold storedAfter
          rw [advance_append, advance_plain quiet, advance_cons]
          refine kept taken ?_ _ rfl ?_
          · intro step member
            rw [shape, same]
            simp [member]
          · exact first
    · obtain ⟨step, member, commits⟩ := moves
      rw [quiet step (same ▸ List.mem_append_left _ member)] at commits
      cases commits

end Handlers

-- Every kind of resource

theorem recordFailure_failed (message : String) (rows : Rows)
    : FailedDeployment message (Deployments.recordFailure message rows) := by
  refine ⟨rfl, rfl, ?_⟩
  intro revision latest
  unfold Deployments.latestRevision Deployments.recordFailure at latest
  cases found : Deployments.latestRevision rows with
  | none =>
      rw [Deployments.latestRevision, latest_eq_none] at found
      simp [found, Deployments.latestRevision] at latest
  | some newest =>
      simp only [found, Deployments.changeRevision] at latest
      rw [latest_map] at latest
      · rw [Deployments.latestRevision] at found
        rw [found] at latest
        simp only [Option.map_some, if_true, Option.some.injEq] at latest
        subst latest
        exact ⟨rfl, rfl⟩
      · intro row
        split <;> rfl

theorem handles_deployment (attempt : Attempt) (rows : Rows)
    : Handles attempt (deploymentStores attempt rows) [.failureRevision]
        (recordDeploymentFailure attempt rows) where
  plain := by simp [Step.isCommit]
  raises := by simp [Attempt.outcome]
  does _ _ usable := (does_query usable rfl).cons (does_store usable)
  refuses _ work unusable := by
    refine state_bind_error ?_
    simp [query, unusable]

theorem handles_database (attempt : Attempt)
    : Handles attempt databaseStores []
        (fun message => store attempt databaseStores (.recordFailure message)) where
  plain := by simp
  raises := by simp
  does _ _ usable := does_store usable
  refuses _ work unusable := by simp [store, unusable]

theorem commit_mem_placementSteps {nodeId : Option Uuid} {ramLimitMb : Int} {place : Commit}
    (member : .commit place ∈ placementSteps attempt nodeId ramLimitMb)
    : nodeId = none ∧ ∃ node, place = .assignNode node := by
  cases nodeId with
  | none =>
      simp only [placementSteps, List.mem_cons, reduceCtorEq, false_or] at member
      split at member
      · simp at member
      · rename_i node _
        exact ⟨rfl, node.id, by simpa using member⟩
  | some nodeId =>
      simp only [placementSteps, List.mem_cons, reduceCtorEq, false_or] at member
      split at member <;> simp at member

theorem commit_mem_pollSteps {round : Nat} {statuses : List BuildStatus} {place : Commit}
    (member : .commit place ∈ pollSteps rows round statuses)
    : (∃ imageTag, place = .recordBuild imageTag)
      ∨ ∃ message, place = .recordBuildError message := by
  induction statuses generalizing round with
  | nil => simp [pollSteps] at member
  | cons status later ih =>
      cases status with
      | other =>
          rw [pollSteps, List.mem_cons] at member
          exact ih (member.resolve_left (by simp))
      | success imageTag =>
          simp only [pollSteps, conclusionSteps, List.mem_cons, reduceCtorEq, false_or] at member
          split at member
          · cases member
          · exact .inl ⟨_, by simpa using member⟩
      | error text =>
          simp only [pollSteps, conclusionSteps, List.mem_cons, reduceCtorEq, false_or] at member
          split at member
          · exact .inr ⟨_, by simpa using member⟩
          · simp at member
      | unknown => simp [pollSteps, conclusionSteps] at member

theorem deploymentStores_good {place : Commit}
    (member : .commit place ∈ deploymentSteps attempt rows) {current : Rows}
    (good : current.deployment.state ≠ .error)
    : (deploymentStores attempt rows place current).deployment.state ≠ .error := by
  cases place with
  | assignNode node =>
      simp only [deploymentStores, Deployments.assignNode]
      split <;> simp_all
  | markBuilding => simp [deploymentStores]
  | recordBuild imageTag => exact good
  | recordBuildError message =>
      simp only [deploymentStores, recordBuildError]
      split <;> exact good
  | recordStart => simp [deploymentStores, Deployments.recordStart]
  | recordFailure message =>
      simp only [deploymentSteps, buildSteps, ensureSteps, List.mem_append, List.mem_cons]
        at member
      rcases member with placed | _ | built | last
      · obtain ⟨_, node, same⟩ := commit_mem_placementSteps placed
        cases same
      · contradiction
      · split at built
        · cases built
        · rcases List.mem_cons.mp built with _ | built
          · contradiction
          · rcases List.mem_append.mp built with marked | polled
            · split at marked <;> simp at marked
            · rcases commit_mem_pollSteps polled with ⟨_, same⟩ | ⟨_, same⟩ <;> cases same
      · simp at last

theorem deploymentSteps_open (attempt : Attempt) {rows : Rows}
    (failed : rows.deployment.state = .error)
    : ∃ plain place rest,
        deploymentSteps attempt rows = plain ++ .commit place :: rest
        ∧ (∀ step ∈ plain, step.isCommit = false)
        ∧ (deploymentStores attempt rows place rows).deployment.state ≠ .error := by
  have later (state : placedState attempt rows = .error)
      : ∃ plain place rest,
          (.latestRevision
            :: (buildSteps attempt rows
              ++ [.startContainer, .commit .recordStart, .reload .recordStart, .loadDomains]))
          = plain ++ .commit place :: rest
          ∧ (∀ step ∈ plain, step.isCommit = false)
          ∧ (deploymentStores attempt rows place rows).deployment.state ≠ .error := by
    unfold buildSteps
    split
    · exact ⟨[.latestRevision, .startContainer], .recordStart, _, rfl, by simp [Step.isCommit],
        by simp [deploymentStores, Deployments.recordStart]⟩
    · rw [state]
      exact ⟨[.latestRevision, .requestBuild], .markBuilding, _, rfl, by simp [Step.isCommit],
        by simp [deploymentStores]⟩
  -- A placement that assigns no node makes no commit.
  have after {placed : List Step} (quiet : ∀ step ∈ placed, step.isCommit = false)
      (state : placedState attempt rows = .error)
      : ∃ plain place rest,
          placed
            ++ (.latestRevision
              :: (buildSteps attempt rows
                ++ [.startContainer, .commit .recordStart, .reload .recordStart, .loadDomains]))
          = plain ++ .commit place :: rest
          ∧ (∀ step ∈ plain, step.isCommit = false)
          ∧ (deploymentStores attempt rows place rows).deployment.state ≠ .error := by
    obtain ⟨plain, place, rest, shape, others, moves⟩ := later state
    refine ⟨placed ++ plain, place, rest, by rw [shape, List.append_assoc], ?_, moves⟩
    intro step member
    exact (List.mem_append.mp member).elim (quiet step) (others step)
  unfold deploymentSteps placementSteps
  cases assigned : rows.deployment.nodeId with
  | none =>
      cases selected : selectBestNode attempt.settings attempt.db attempt.now
          rows.deployment.ramLimitMb with
      | none =>
          exact after (by simp [Step.isCommit])
            (by simp [placedState, assigned, selected, failed])
      | some node =>
          exact ⟨[.selectNode], .assignNode node.id, _, rfl, by simp [Step.isCommit],
            by simp [deploymentStores, Deployments.assignNode, assigned]⟩
  | some nodeId =>
      refine after ?_ (by simp [placedState, assigned, failed])
      intro step member
      dsimp only at member
      split at member <;> simp at member <;> rcases member with rfl | rfl <;> rfl

theorem deployment_moved (attempt : Attempt) (rows : Rows) (before later : List Step)
    (split : deploymentSteps attempt rows = before ++ later)
    (moves : ∃ step ∈ before, step.isCommit = true) (message : String)
    : ¬ FailedDeployment message (storedAfter (deploymentStores attempt rows) before rows) := by
  have good : (storedAfter (deploymentStores attempt rows) before rows).deployment.state
      ≠ .error := by
    refine good_after (fun left : Rows => left.deployment.state ≠ .error)
      (fun place member current => deploymentStores_good member) ?_ split moves
    by_cases failed : rows.deployment.state = .error
    · exact .inr (deploymentSteps_open attempt failed)
    · exact .inl failed
  exact fun recorded => good recorded.state

theorem deployment_runs (attempt : Attempt) (rows : Rows)
    : (storedAfter (deploymentStores attempt rows) (deploymentSteps attempt rows)
        rows).deployment.state = .running := by
  simp only [storedAfter, deploymentSteps, advance_append, advance_cons, advance_nil]
  rfl

/-- The first commit among some steps, by induction on the steps. -/
theorem first_commit (moves : ∃ step ∈ steps, step.isCommit = true)
    : ∃ plain place rest,
        steps = plain ++ .commit place :: rest ∧ ∀ step ∈ plain, step.isCommit = false := by
  induction steps with
  | nil => simp at moves
  | cons step rest ih =>
      cases commits : step.isCommit with
      | true =>
          cases step with
          | commit place => exact ⟨[], place, rest, rfl, by simp⟩
          | _ => cases commits
      | false =>
          obtain ⟨plain, place, later, shape, quiet⟩ := ih (by simpa [commits] using moves)
          exact ⟨step :: plain, place, later, by rw [shape, List.cons_append],
            List.forall_mem_cons.mpr ⟨commits, quiet⟩⟩

theorem database_moved (attempt : Attempt) (database : DatabaseInstance)
    (before later : List Step) (split : databaseSteps attempt database = before ++ later)
    (moves : ∃ step ∈ before, step.isCommit = true)
    : (storedAfter databaseStores before database).state ≠ .error := by
  have good : ∀ place, .commit place ∈ databaseSteps attempt database
      → ∀ current, (databaseStores place current).state ≠ .error := by
    intro place member current
    rcases List.mem_append.mp member with placed | last
    · obtain ⟨_, node, rfl⟩ := commit_mem_placementSteps placed
      simp [databaseStores, buildDatabaseOn]
    · have same : place = .recordStart := by simpa using last
      subst same
      simp [databaseStores, setDatabaseState]
  refine good_after (fun left : DatabaseInstance => left.state ≠ .error)
    (fun place member current _ => good place member current) (.inr ?_) split moves
  obtain ⟨step, member, commits⟩ := moves
  obtain ⟨plain, place, rest, shape, quiet⟩ :=
    first_commit ⟨step, split ▸ List.mem_append_left _ member, commits⟩
  exact ⟨plain, place, rest, shape, quiet, good place (by simp [shape]) database⟩

theorem database_runs (attempt : Attempt) (database : DatabaseInstance)
    : (storedAfter databaseStores (databaseSteps attempt database) database).state
      = .running := by
  simp only [storedAfter, databaseSteps, advance_append, advance_cons, advance_nil]
  rfl

theorem serverSteps_runs {server : Server}
    (passes : AllPass attempt.outcome (serverSteps attempt server))
    : (storedAfter (serverStores attempt) (serverSteps attempt server) server).state
      = .running := by
  unfold serverSteps at passes ⊢
  split at passes
  · cases passes (.giveUp "the checks of start_server") (by simp)
  · simp only [storedAfter, advance_cons, advance_nil]
    rfl

theorem orchestrator_ok {next : ProvisionM Data Unit}
    (driver : attempt.runtimeDriver = "systemd")
    : (do getServerLifecycleOrchestrator attempt; next) = next := by
  unfold getServerLifecycleOrchestrator
  rw [if_pos driver, pure_bind]

theorem orchestrator_error (work : UnitOfWork Data) (next : ProvisionM Data Unit)
    (driver : attempt.runtimeDriver ≠ "systemd")
    : ∃ message,
        (do getServerLifecycleOrchestrator attempt; next) work
        = .error (.raised message) work := by
  unfold getServerLifecycleOrchestrator
  rw [if_neg driver]
  exact ⟨_, rfl⟩

theorem server_concludes_iff (attempt : Attempt) (server : Server)
    : Concludes (provisionMinecraftServer attempt server)
        (do query attempt .loadRow; getServerLifecycleOrchestrator attempt
            startServer attempt server)
        (fun left => left.state = .running) FailedServer server
      ↔ attempt.raises .loadRow = none
        ∧ attempt.runtimeDriver = "systemd"
        ∧ AllPass attempt.outcome (serverSteps attempt server) := by
  unfold Concludes provisionResource provisionMinecraftServer
  cases loaded : attempt.raises .loadRow with
  | some message =>
      rw [query_loadRow_error loaded, query_loadRow_error loaded]
      simp [FailedServer]
  | none =>
      rw [query_loadRow_ok loaded, query_loadRow_ok loaded]
      by_cases driver : attempt.runtimeDriver = "systemd"
      · simp only [orchestrator_ok driver, driver, true_and]
        have works := does_startServer attempt server
        rcases allPass_or_firstRaise attempt.outcome (serverSteps attempt server)
          with passes | ⟨before, step, failure, first⟩
        · have ran := works.passes passes
          unfold guarded
          rw [ran, tryCatch_ok ran]
          exact iff_of_true ⟨_, rfl, serverSteps_runs passes⟩ passes
        · have ran := works.fails first
          rw [ran]
          refine iff_of_false ?_ first.not_allPass
          cases failure with
          | waiting => exact id
          | raised message =>
              rintro ⟨left, _, failed⟩
              exact failed
      · obtain ⟨message, refused⟩ := orchestrator_error { committed := server }
          (startServer attempt server) driver
        rw [refused]
        refine iff_of_false ?_ (fun ends => driver ends.2.1)
        rintro ⟨left, _, failed⟩
        exact failed

def AttemptEndsWell (attempt : Attempt) (revisions : List DeploymentRevision) (id : Uuid)
    : ResourceType → Prop
  | .minecraftServer =>
      ∀ server, attempt.db.servers.get? id = some server
      → attempt.raises .loadRow = none
        ∧ attempt.runtimeDriver = "systemd"
        ∧ AllPass attempt.outcome (serverSteps attempt server)
  | .appDeployment =>
      ∀ deployment, attempt.db.appDeployments.get? id = some deployment
      → EndsWell attempt FailedDeployment [.failureRevision]
          (deploymentSteps attempt ⟨deployment, revisions⟩) ⟨deployment, revisions⟩
  | .databaseInstance =>
      ∀ database, attempt.db.databaseInstances.get? id = some database
      → EndsWell attempt (fun _ left => left.state = .error) [] (databaseSteps attempt database)
          database

/-- An attempt leaves its resource as it should exactly if, for a server, no step raises, and,
for the others, each step that can end it leaves the session usable and the handler gets through.
-/
theorem provisioning_concludes_iff (attempt : Attempt) (revisions : List DeploymentRevision)
    (id : Uuid) (kind : ResourceType)
    : AttemptConcludes attempt revisions id kind
      ↔ AttemptEndsWell attempt revisions id kind := by
  cases kind with
  | minecraftServer =>
      exact forall_congr' fun server => imp_congr_right fun _ =>
        server_concludes_iff attempt server
  | appDeployment =>
      exact forall_congr' fun deployment => imp_congr_right fun _ =>
        concludes_iff (does_runDeployment attempt _) (handles_deployment attempt _)
          recordFailure_failed (deployment_moved attempt _) (deployment_runs attempt _)
  | databaseInstance =>
      exact forall_congr' fun database => imp_congr_right fun _ =>
        concludes_iff (does_runDatabase attempt database) (handles_database attempt)
          (fun _ _ => rfl) (fun before later split moves _ =>
            database_moved attempt database before later split moves)
          (database_runs attempt database)

/-- A paid server whose node does not answer. -/
def unreachable : Attempt where
  settings := {}
  now := 0
  db :=
    { servers :=
        ⟨[{ id := 0, nodeId := some 3, ownerId := 1, worldName := "lobby"
            state := .provisioning, mcConfig := { serverDir := some "/srv/0" }
            lastActivity := 0 }], List.nodup_singleton _⟩
      plans :=
        ⟨[{ id := "pro", ramMb := 1024, cpuLimit := 100, storageMb := 10240, playerLimit := 25,
            price := 39900, durationDays := 30 }], List.nodup_singleton _⟩
      subscriptions :=
        ⟨[{ id := 0, userId := 1, serverId := some 0, planId := "pro", startsAt := 0,
            expiresAt := days 30, createdAt := 0, updatedAt := 0 }], List.nodup_singleton _⟩ }
  raises step := if step = .startContainer then some "All connection attempts failed" else none

/-- The handler of a failed start reads a state that does not exist, so the server stays in
provisioning.
-/
theorem failed_server_stays_provisioning
    : ¬ ∀ (attempt : Attempt) (revisions : List DeploymentRevision) (id : Uuid)
        (kind : ResourceType),
        AttemptConcludes attempt revisions id kind := by
  intro concludes
  have stored : ∃ server, unreachable.db.servers.get? 0 = some server
      ∧ Step.startContainer ∈ serverSteps unreachable server := by
    refine ⟨_, rfl, ?_⟩
    decide +kernel
  obtain ⟨server, found, member⟩ := stored
  have ends := (server_concludes_iff unreachable server).mp
    (concludes unreachable [] 0 .minecraftServer server found)
  cases ends.2.2 .startContainer member

end Blockhost.ResourceProvisioning
