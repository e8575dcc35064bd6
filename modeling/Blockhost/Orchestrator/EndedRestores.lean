import Blockhost.Orchestrator.RestoreSteps

/-! When a restore job ends. The handler of a failure takes over the failures of the rollback, so
only a commit that fails leaves the job active.
-/

namespace Blockhost.RestoreRuns

open Library
open JobRuns (JobException pendingRollback)

variable {World Content : Type} {task : RestoreTask World Content}
  {state : Transacted Database (RestoreVars World Content)} {failure : JobException}

-- Jobs that end

/-- A job is completed, or has failed or been rolled back with its error. -/
structure EndedRestoreJob (job : RestoreJob) : Prop where
  inactive : job.status.activeJob = false
  recorded
    : job.status = .completed ∨ job.errorCode.isSome = true ∧ job.errorMessage.isSome = true

def JobMeets (jobId : Uuid) (condition : RestoreJob → Prop) (db : Database) : Prop :=
  ∃ job, db.restoreJobs.get? jobId = some job ∧ condition job

def IsActive (job : RestoreJob) : Prop := job.status.activeJob = true

theorem JobMeets.becomes {jobId : Uuid} {condition other : RestoreJob → Prop} {db : Database}
    (meets : JobMeets jobId condition db) {change : Change RestoreJob.id}
    (brings : ∀ job, condition job → other (change.apply job))
    : JobMeets jobId other (changeRestoreJob jobId change db) := by
  obtain ⟨job, found, holds⟩ := meets
  unfold JobMeets changeRestoreJob
  rw [Table.get?_modify, found, if_pos rfl]
  exact ⟨_, rfl, brings job holds⟩

theorem not_ended_of_active {jobId : Uuid} {db : Database} (active : JobMeets jobId IsActive db)
    : ¬ JobMeets jobId EndedRestoreJob db := by
  rintro ⟨job, found, ended⟩
  obtain ⟨other, same, active⟩ := active
  cases found.symm.trans same
  cases ended.inactive.symm.trans active

-- Up to the completion

theorem rows_active {place : RestoreCommit} (other : place ≠ .completed) {db : Database}
    (active : JobMeets task.job.id IsActive db)
    : JobMeets task.job.id IsActive (task.rows place db) := by
  cases place with
  | completed => exact absurd rfl other
  | running | validatingBackup | stoppingServer | extracting | validatingRestore | swapping
      | startingServer =>
      exact active.becomes fun _ _ => rfl
  | wasRunning | stopped | rollbackPath | failed | restarted =>
      exact active

theorem stored_active {steps : List RestoreStep} (other : .commit .completed ∉ steps)
    {db : Database} (active : JobMeets task.job.id IsActive db)
    : JobMeets task.job.id IsActive (task.meaning.stored steps db) := by
  induction steps generalizing db with
  | nil => exact active
  | cons step rest ih =>
      refine ih (fun member => other (List.mem_cons_of_mem _ member)) ?_
      cases step with
      | commit place =>
          refine rows_active ?_ active
          rintro rfl
          exact other List.mem_cons_self
      | _ => exact active

theorem completed_not_mem_workSteps : .commit .completed ∉ workSteps task := by
  unfold workSteps checkSteps stageSteps stopSteps swapSteps startSteps
  cases task.running <;> cases task.job.restartAfterRestore <;> simp

-- The handler

inductive FailedStatus : RestoreStatus → String → Prop where
  | failed : FailedStatus .failed "failed"
  | rolledBack : FailedStatus .rolledBack "rolled_back"

def failRows (task : RestoreTask World Content) (failure : JobException)
    (rollbackFailure : Option JobException) (status : RestoreStatus) (phase : String)
    (db : Database)
    : Database :=
  changeRestoreJob task.job.id (recordFailure task failure rollbackFailure)
    (changeRestoreJob task.job.id (setJobPhase status phase) db)

theorem failRows_ended {rollbackFailure : Option JobException} {status : RestoreStatus}
    {phase : String} (ended : FailedStatus status phase) {db : Database}
    {condition : RestoreJob → Prop} (meets : JobMeets task.job.id condition db)
    : JobMeets task.job.id EndedRestoreJob
        (failRows task failure rollbackFailure status phase db) := by
  have phased : JobMeets task.job.id (fun job => job.status = status)
      (changeRestoreJob task.job.id (setJobPhase status phase) db) :=
    meets.becomes fun _ _ => rfl
  refine phased.becomes ?_
  rintro job same
  have inactive : status.activeJob = false := by
    cases ended <;> rfl
  unfold recordFailure
  cases rollbackFailure with
  | none => exact ⟨(congrArg _ same).trans inactive, .inr ⟨rfl, rfl⟩⟩
  | some other => exact ⟨(congrArg _ same).trans inactive, .inr ⟨rfl, rfl⟩⟩

theorem sameSession_moveBack : Keeps SameSession (moveBack task) := by
  refine Keeps.get.bind fun state => Keeps.bind ?_ fun _ => sameSession_actOn _ _
  refine keeps_ite ?_ (Keeps.pure _)
  exact (sameSession_actOn _ _).bind fun _ => sameSession_actOn _ _

theorem rollBack_eq (ready : Ready state)
    : rollBack task state
      = (if task.job.rollbackEnabled && state.vars.activeWorlds && state.vars.rollbackWorlds
          then do
            perform task .findRollback
            if state.vars.files.rollback.isSome then do
              moveBack task
              endJob task .rolledBack "rolled_back"
            else endJob task .failed "failed"
          else endJob task .failed "failed") state :=
  (state_bind_run (loadRow_ready ready)).trans (state_bind_run rfl)

theorem rollBack_cases (ready : Ready state)
    : (∃ status phase vars, FailedStatus status phase
        ∧ rollBack task state
          = .ok () ⟨state.work.change
              (changeRestoreJob task.job.id (setJobPhase status phase)), vars⟩)
      ∨ ∃ other vars, rollBack task state = .error other ⟨state.work, vars⟩ := by
  rw [rollBack_eq ready]
  split
  · cases found : task.raises .findRollback with
    | some other => exact .inr ⟨other, state.vars, state_bind_error (actOn_error found)⟩
    | none =>
        rw [state_bind_run (perform_ok found)]
        split
        · have same : SameSession state (finalState (moveBack task state)) :=
            sameSession_moveBack state
          cases moved : moveBack task state with
          | ok value next =>
              rw [moved] at same
              refine .inl ⟨.rolledBack, "rolled_back", next.vars, .rolledBack, ?_⟩
              exact (state_bind_run moved).trans (by rw [← same]; rfl)
          | error other next =>
              rw [moved] at same
              exact .inr ⟨other, next.vars, (state_bind_error moved).trans (by rw [← same]; rfl)⟩
        · exact .inl ⟨.failed, "failed", state.vars, .failed, rfl⟩
  · exact .inl ⟨.failed, "failed", state.vars, .failed, rfl⟩

theorem keeps_restartStopped (db : Database)
    : Keeps (Carries (OfSession (Holding db))) (restartStopped task) := by
  have stores (place : RestoreCommit)
      : Keeps (Carries (OfSession (Holding db))) (commit task place) :=
    keeps_commitData _ (fun _ _ => Holding.flush) (fun _ => Holding.spoil)
  refine Keeps.get.bind fun state => keeps_ite ?_ (Keeps.pure _)
  refine keeps_loadRow.bind fun _ => (keeps_actOn _ _).bind fun _ => ?_
  refine keeps_ite (Keeps.pure _) (Keeps.tryCatch (Keeps.bind ?_ fun _ => stores _) fun _ => ?_)
  · exact keeps_loadRow.bind fun _ => keeps_actTorn _ _ _
  · exact keeps_loadRow

theorem restoreFailed_committed (ready : Ready state)
    : ∃ rollbackFailure status phase, FailedStatus status phase
      ∧ (finalState (restoreFailed task failure state)).work.committed
        = if task.raises (.commit .failed) = none then
            failRows task failure rollbackFailure status phase state.work.committed
          else state.work.committed := by
  have rolled : ∃ rollbackFailure status phase vars, FailedStatus status phase
      ∧ (tryCatch (do rollBack task; pure none) (fun other => do
            endJob task .failed "failed"
            pure (some other)) : RestoreM World Content (Option JobException)) state
        = .ok rollbackFailure
            ⟨state.work.change (changeRestoreJob task.job.id (setJobPhase status phase)), vars⟩
      := by
    rcases rollBack_cases ready with ⟨status, phase, vars, ended, rolled⟩ | ⟨other, vars, raised⟩
    · exact ⟨none, status, phase, vars, ended, tryCatch_ok (state_bind_run rolled)⟩
    · refine ⟨some other, .failed, "failed", vars, .failed, ?_⟩
      rw [tryCatch_error (state_bind_error raised)]
      rfl
  obtain ⟨rollbackFailure, status, phase, vars, ended, rolled⟩ := rolled
  refine ⟨rollbackFailure, status, phase, ended, ?_⟩
  have opened : restoreFailed task failure state
      = (do commit task .failed; restartStopped task)
          ⟨(state.work.change (changeRestoreJob task.job.id (setJobPhase status phase))).change
            (changeRestoreJob task.job.id (recordFailure task failure rollbackFailure)), vars⟩ :=
    (state_bind_run rolled).trans (state_bind_run rfl)
  have current : ((state.work.change
      (changeRestoreJob task.job.id (setJobPhase status phase))).change
        (changeRestoreJob task.job.id (recordFailure task failure rollbackFailure))).current
      = failRows task failure rollbackFailure status phase state.work.committed := by
    rw [UnitOfWork.change_current, UnitOfWork.change_current, ready.current]
    rfl
  rw [opened, ← current]
  generalize same : (state.work.change _).change _ = work
  have usable : work.usable = true := same ▸ ready.usable
  split
  · rename_i stored
    rw [state_bind_run (commit_ok usable stored)]
    exact (keeps_restartStopped _ _ ⟨rfl, rfl⟩).stored
  · rename_i raised
    obtain ⟨other, raised⟩ := Option.ne_none_iff_exists'.mp raised
    rw [state_bind_error (commit_error usable raised), ← same]
    rfl

theorem restoreFailed_spoilt (spoilt : state.work.usable = false)
    : (finalState (restoreFailed task failure state)).work.committed = state.work.committed := by
  have refused (next : Transacted Database (RestoreVars World Content))
      (spoilt : next.work.usable = false)
      : (loadRow pendingRollback : RestoreM World Content Unit) next
        = .error pendingRollback next := by
    rw [loadRow, spoilt]
    rfl
  have unstored (next : Transacted Database (RestoreVars World Content))
      (spoilt : next.work.usable = false)
      : commit task .failed next = .error pendingRollback next := by
    rw [commit, commitData, spoilt]
    rfl
  have rolled : (tryCatch (do rollBack task; pure none) (fun other => do
        endJob task .failed "failed"
        pure (some other)) : RestoreM World Content (Option JobException)) state
      = .ok (some pendingRollback)
          ⟨state.work.change (changeRestoreJob task.job.id (setJobPhase .failed "failed")),
            state.vars⟩ := by
    have raised : rollBack task state = .error pendingRollback state :=
      state_bind_error (refused state spoilt)
    rw [tryCatch_error (state_bind_error raised)]
    rfl
  have opened : restoreFailed task failure state
      = .error pendingRollback
          ⟨(state.work.change
              (changeRestoreJob task.job.id (setJobPhase .failed "failed"))).change
            (changeRestoreJob task.job.id (recordFailure task failure (some pendingRollback))),
            state.vars⟩ := by
    refine (state_bind_run rolled).trans ((state_bind_run rfl).trans ?_)
    exact state_bind_error (unstored _ spoilt)
  rw [opened]
  rfl

-- Whole jobs

/-- When a restore job ends: all steps up to the completion pass, or the first one that raises is
no commit, and the failure can be stored.
-/
def RestoreEnds (task : RestoreTask World Content) : Prop :=
  AllPass task.raises (completionSteps task)
  ∨ ∃ before step failure, FirstRaise task.raises (completionSteps task) before step failure
    ∧ step.isCommit = false ∧ task.raises (.commit .failed) = none

theorem restoreRun_work
    : (finalState (restoreRun task state)).work
      = (finalState (tryCatch (lockedRestore task) (restoreFailed task) state)).work := by
  have cleaned : Keeps SameSession (restoreCleanUp task) := by
    refine Keeps.get.bind fun state => keeps_ite ?_ (Keeps.pure _)
    exact sameSession_actOn _ _
  unfold restoreRun
  rw [finalState_closing]
  exact cleaned _

theorem restoreRun_fails (ready : Ready state) {before : List RestoreStep} {step : RestoreStep}
    (first : FirstRaise task.raises (jobSteps task) before step failure)
    : ∃ raised, (finalState (restoreRun task state)).work
      = (finalState (restoreFailed task raised
          (task.meaning.broken step (advance task.meaning.effect before state)))).work := by
  obtain ⟨raised, failed⟩ := (runs_lockedRestore state ready).fails first
  refine ⟨raised, ?_⟩
  rw [restoreRun_work, tryCatch_error failed]

theorem restoreRun_committed (ready : Ready state) {before : List RestoreStep}
    {step : RestoreStep} (first : FirstRaise task.raises (jobSteps task) before step failure)
    : ∃ raised rollbackFailure status phase, FailedStatus status phase
      ∧ (finalState (restoreRun task state)).work.committed
        = if step.isCommit = false ∧ task.raises (.commit .failed) = none then
            failRows task raised rollbackFailure status phase
              (task.meaning.stored before state.work.committed)
          else task.meaning.stored before state.work.committed := by
  obtain ⟨raised, same⟩ := restoreRun_fails ready first
  have reached : Ready (advance task.meaning.effect before state) := advance_ready _ ready
  have stored : (advance task.meaning.effect before state).work.committed
      = task.meaning.stored before state.work.committed :=
    advance_committed before ready
  rw [same]
  cases commits : step.isCommit with
  | true =>
      have spoilt : (task.meaning.broken step (advance task.meaning.effect before state)).work
          = (advance task.meaning.effect before state).work.spoil := by
        cases step with
        | commit place => rfl
        | _ => cases commits
      refine ⟨raised, none, .failed, "failed", .failed, ?_⟩
      rw [restoreFailed_spoilt (by rw [spoilt]; rfl), spoilt, if_neg (by simp)]
      exact stored
  | false =>
      have plain : task.meaning.stores step = none := by
        cases step with
        | commit place => cases commits
        | _ => rfl
      obtain ⟨left, kept⟩ := reached.broken plain
      obtain ⟨rollbackFailure, status, phase, ended, handled⟩ := restoreFailed_committed left
      refine ⟨raised, rollbackFailure, status, phase, ended, ?_⟩
      rw [handled, kept, stored]
      simp only [true_and]

theorem stored_completionSteps (db : Database)
    : task.meaning.stored (completionSteps task) db
      = changeRestoreJob task.job.id (completeJob task.now)
          (task.meaning.stored (workSteps task) db) :=
  StepMeaning.stored_append ..

theorem late_plain : ∀ step ∈ [.dropRollback, .unlock], task.meaning.stores step = none := by
  simp [RestoreTask.meaning]

theorem completed_ends (ready : Ready state)
    (active : JobMeets task.job.id IsActive state.work.committed)
    (all : AllPass task.raises (completionSteps task))
    : JobMeets task.job.id EndedRestoreJob
        (finalState (restoreRun task state)).work.committed := by
  have worked : JobMeets task.job.id IsActive
      (task.meaning.stored (workSteps task) state.work.committed) :=
    stored_active completed_not_mem_workSteps active
  have ended : JobMeets task.job.id EndedRestoreJob
      (task.meaning.stored (completionSteps task) state.work.committed) := by
    rw [stored_completionSteps]
    exact worked.becomes fun _ _ => ⟨rfl, .inl rfl⟩
  rcases allPass_or_firstRaise task.raises (jobSteps task)
    with passes | ⟨before, step, failure, first⟩
  · have ran := (runs_lockedRestore state ready).passes passes
    rw [restoreRun_work, tryCatch_ok ran, finalState, advance_committed _ ready, jobSteps,
      StepMeaning.stored_append, StepMeaning.stored_plain _ late_plain]
    exact ended
  · obtain ⟨raised, rollbackFailure, status, phase, fails, stored⟩ :=
      restoreRun_committed ready first
    rw [stored]
    rcases first.of_append with early | ⟨_, rest, rfl, late⟩
    · exact absurd all early.not_allPass
    rw [StepMeaning.stored_append, StepMeaning.stored_plain _ fun earlier member =>
      late_plain earlier (late.mem_before member)]
    split
    · exact failRows_ended fails ended
    · exact ended

theorem completed_not_mem_before {before : List RestoreStep} {step : RestoreStep}
    (first : FirstRaise task.raises (completionSteps task) before step failure)
    : .commit .completed ∉ before := by
  intro member
  rcases first.of_append with early | ⟨_, rest, rfl, last⟩
  · exact completed_not_mem_workSteps (early.mem_before member)
  · obtain ⟨rfl, rfl⟩ := last.of_single
    rw [List.append_nil] at member
    exact completed_not_mem_workSteps member

theorem failed_ends_iff (ready : Ready state)
    (active : JobMeets task.job.id IsActive state.work.committed) {before : List RestoreStep}
    {step : RestoreStep}
    (first : FirstRaise task.raises (completionSteps task) before step failure)
    : JobMeets task.job.id EndedRestoreJob (finalState (restoreRun task state)).work.committed
      ↔ step.isCommit = false ∧ task.raises (.commit .failed) = none := by
  obtain ⟨raised, rollbackFailure, status, phase, fails, stored⟩ :=
    restoreRun_committed ready (first.append _)
  have underway : JobMeets task.job.id IsActive
      (task.meaning.stored before state.work.committed) :=
    stored_active (completed_not_mem_before first) active
  rw [stored]
  split
  · exact iff_of_true (failRows_ended fails underway) ‹_›
  · exact iff_of_false (not_ended_of_active underway) ‹_›

theorem restoreRun_ends_iff (ready : Ready state)
    (active : JobMeets task.job.id IsActive state.work.committed)
    : JobMeets task.job.id EndedRestoreJob (finalState (restoreRun task state)).work.committed
      ↔ RestoreEnds task := by
  constructor
  · intro ended
    rcases allPass_or_firstRaise task.raises (completionSteps task)
      with all | ⟨before, step, failure, first⟩
    · exact .inl all
    · exact .inr ⟨before, step, failure, first, (failed_ends_iff ready active first).mp ended⟩
  · rintro (all | ⟨before, step, failure, first, met⟩)
    · exact completed_ends ready active all
    · exact (failed_ends_iff ready active first).mpr met

end Blockhost.RestoreRuns
