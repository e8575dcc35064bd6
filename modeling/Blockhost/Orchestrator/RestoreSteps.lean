import Blockhost.Orchestrator.RestoreRuns

/-! A restore job as a list of steps with their effects, and what its handler leaves. -/

namespace Blockhost.RestoreRuns

open Library
open JobRuns (JobException pendingRollback)

variable {World Content : Type} {task : RestoreTask World Content}

-- Effects

/-- The rows that a commit of the main path stores. -/
def RestoreTask.rows (task : RestoreTask World Content) : RestoreCommit → Database → Database
  | .running => changeRestoreJob task.job.id startJob
  | .validatingBackup =>
      changeRestoreJob task.job.id (setJobPhase .validatingBackup "validating_backup")
  | .stoppingServer =>
      changeRestoreJob task.job.id (setJobPhase .stoppingServer "stopping_server")
  | .extracting => changeRestoreJob task.job.id (setJobPhase .extracting "extracting")
  | .validatingRestore =>
      changeRestoreJob task.job.id (setJobPhase .validatingRestore "validating_restore")
  | .swapping => changeRestoreJob task.job.id (setJobPhase .swapping "swapping")
  | .startingServer =>
      changeRestoreJob task.job.id (setJobPhase .startingServer "starting_server")
  | .completed => changeRestoreJob task.job.id (completeJob task.now)
  | _ => id

/-- The world that was moved away comes back at once when the restored one cannot come in. -/
def RestoreTask.undoMove (task : RestoreTask World Content) (files : ServerFiles World Content)
    : ServerFiles World Content :=
  if files.rollback.isSome && files.active.world.isNone && (task.raises .undoMove).isNone then
    files.moveBack
  else files

def RestoreTask.meaning (task : RestoreTask World Content)
    : StepMeaning RestoreStep Database (RestoreVars World Content) where
  stores
    | .commit place => some (task.rows place)
    | _ => none
  acts
    | .worldPath => fun vars => { vars with activeWorlds := true }
    | .askRunning => fun vars => { vars with serverWasRunning := task.running }
    | .clearTmp => fun vars =>
        { vars with restoreTmp := true, files := { vars.files with restored := {} } }
    | .extract => onFiles fun files => { files with restored := task.archive }
    | .clearRollback => fun vars =>
        { vars with rollbackWorlds := true, files := { vars.files with rollback := none } }
    | .moveAway => onFiles ServerFiles.moveAway
    | .moveIn => onFiles ServerFiles.moveIn
    | .copyConfig filename =>
        onFiles fun files => files.copyConfig filename (files.restored.configs filename)
    | .startServer => onFiles fun files => files.configure task.started
    | .dropRollback => onFiles fun files => { files with rollback := none }
    | _ => id
  tears
    | .clearTmp => fun vars => { vars with restoreTmp := true }
    | .clearRollback => fun vars => { vars with rollbackWorlds := true }
    | .moveIn => onFiles task.undoMove
    | .copyConfig filename => onFiles fun files => files.copyConfig filename (task.torn filename)
    | .startServer => onFiles fun files => files.configure task.halfStarted
    | _ => id

variable {steps : List RestoreStep} {first : RestoreM World Content Unit}

section Outcomes

variable {state : Transacted Database (RestoreVars World Content)} {place : RestoreCommit}

theorem perform_ok {step : RestoreStep} (passed : task.raises step = none)
    : perform task step state = .ok () state :=
  actOn_ok passed

theorem commit_ok (usable : state.work.usable = true)
    (passed : task.raises (.commit place) = none)
    : commit task place state = .ok () { state with work := state.work.flush } :=
  commitData_ok usable passed

theorem commit_error {failure : JobException} (usable : state.work.usable = true)
    (raised : task.raises (.commit place) = some failure)
    : commit task place state = .error failure { state with work := state.work.spoil } :=
  commitData_error usable raised

end Outcomes

theorem runs_perform {step : RestoreStep} (plain : task.meaning.stores step = none)
    (same : task.meaning.acts step = id) (whole : task.meaning.tears step = id)
    : Runs task.raises task.meaning [step] (perform task step) :=
  runs_actOn plain same whole

theorem runs_commit {place : RestoreCommit} (same : task.rows place = id)
    : Runs task.raises task.meaning [.commit place] (commit task place) :=
  runs_commitData (congrArg some same) rfl rfl

theorem runs_updateRestoreJob {status : RestoreStatus} {phase : String} {place : RestoreCommit}
    (stores : task.rows place = changeRestoreJob task.job.id (setJobPhase status phase))
    : Runs task.raises task.meaning [.commit place] (updateRestoreJob task status phase place) :=
  runs_changeData (congrArg some stores) rfl rfl

-- The main path

def stopSteps (task : RestoreTask World Content) : List RestoreStep :=
  if task.running then [.stopServer, .commit .stopped] else []

theorem runs_stopServer : Runs task.raises task.meaning (stopSteps task) (stopServer task) :=
  runs_ite ((runs_perform rfl rfl rfl).cons (runs_commit rfl)) runs_pure

def checkSteps : List RestoreStep :=
  [.findBackup, .commit .running, .checkBackup, .commit .validatingBackup, .verifyArtifact,
    .validateMembers, .serverDir, .worldPath, .askRunning, .commit .wasRunning]

theorem runs_checkRestore : Runs task.raises task.meaning checkSteps (checkRestore task) := by
  refine (runs_perform rfl rfl rfl).cons ?_
  refine runs_changeData_then rfl rfl rfl ?_
  refine (runs_perform rfl rfl rfl).cons ?_
  refine (runs_updateRestoreJob rfl).cons ?_
  refine (runs_perform rfl rfl rfl).cons ?_
  refine (runs_perform rfl rfl rfl).cons ?_
  refine (runs_perform rfl rfl rfl).cons ?_
  refine (runs_actOn rfl rfl rfl).cons ?_
  refine (runs_actOn rfl rfl rfl).cons ?_
  exact runs_commit rfl

def stageSteps (task : RestoreTask World Content) : List RestoreStep :=
  .commit .stoppingServer
  :: (stopSteps task ++ [.clearTmp, .makeTmp, .commit .extracting, .extract, .findRestored])

theorem runs_stageRestore
    : Runs task.raises task.meaning (stageSteps task) (stageRestore task) := by
  refine (runs_updateRestoreJob rfl).cons (runs_stopServer.bind ?_)
  refine runs_setVars_then rfl rfl rfl ?_
  refine (runs_perform rfl rfl rfl).cons ?_
  refine (runs_updateRestoreJob rfl).cons ?_
  refine (runs_actOn rfl rfl rfl).cons ?_
  exact runs_perform rfl rfl rfl

theorem runs_moveIn : Runs task.raises task.meaning [.moveIn] (moveIn task) := by
  refine runs_single ?_ ?_
  · intro state _ passed
    exact tryCatch_ok (actOn_ok passed)
  · intro state failure _ raised
    have failed : act task .moveIn (onFiles ServerFiles.moveIn) state = .error failure state :=
      actOn_error raised
    unfold moveIn
    rw [tryCatch_error failed]
    refine Exists.imp (fun other same => (state_bind_run rfl).trans same) ?_
    have left : task.meaning.broken .moveIn state
        = { state with vars := onFiles task.undoMove state.vars } :=
      rfl
    rw [left]
    cases undone : state.vars.files.rollback.isSome && state.vars.files.active.world.isNone with
    | false =>
        have same : task.undoMove state.vars.files = state.vars.files := by
          simp only [RestoreTask.undoMove, undone, Bool.false_and, Bool.false_eq_true, if_false]
        rw [onFiles, same]
        exact ⟨failure, state_bind_run rfl⟩
    | true =>
        cases raisedUndo : task.raises .undoMove with
        | none =>
            have moved : task.undoMove state.vars.files = state.vars.files.moveBack := by
              simp only [RestoreTask.undoMove, undone, raisedUndo, Option.isNone_none,
                Bool.and_self, if_true]
            have ran : act task .undoMove (onFiles ServerFiles.moveBack) state
                = .ok () { state with vars := onFiles ServerFiles.moveBack state.vars } :=
              actOn_ok raisedUndo
            rw [onFiles, moved]
            exact ⟨failure, state_bind_run ran⟩
        | some other =>
            have same : task.undoMove state.vars.files = state.vars.files := by
              simp only [RestoreTask.undoMove, undone, raisedUndo, Option.isNone_some,
                Bool.and_false, Bool.false_eq_true, if_false]
            have refused : act task .undoMove (onFiles ServerFiles.moveBack) state
                = .error other state :=
              actOn_error raisedUndo
            rw [onFiles, same]
            exact ⟨other, state_bind_error refused⟩

def swapSteps : List RestoreStep :=
  [.commit .validatingRestore, .clearRollback, .makeRollback, .commit .rollbackPath,
    .commit .swapping, .moveAway, .moveIn]

theorem runs_swapWorlds : Runs task.raises task.meaning swapSteps (swapWorlds task) := by
  refine (runs_updateRestoreJob rfl).cons ?_
  refine runs_setVars_then rfl rfl rfl ?_
  refine (runs_perform rfl rfl rfl).cons ?_
  refine (runs_commit rfl).cons ?_
  refine (runs_updateRestoreJob rfl).cons ?_
  refine (runs_actOn rfl rfl rfl).cons ?_
  exact runs_moveIn

/-- The copies, by induction on the files. -/
theorem runs_copyConfigs (filenames : List String)
    : Runs task.raises task.meaning (filenames.map .copyConfig)
        (copyConfigs task filenames) := by
  induction filenames with
  | nil => exact runs_pure
  | cons filename rest ih => exact (runs_actTorn rfl rfl rfl).cons ih

def startSteps (task : RestoreTask World Content) : List RestoreStep :=
  if task.job.restartAfterRestore then
    [.commit .startingServer, .startServer]
  else []

theorem runs_restartServer
    : Runs task.raises task.meaning (startSteps task) (restartServer task) := by
  refine runs_ite ((runs_updateRestoreJob rfl).cons (runs_loadRow ?_)) runs_pure
  exact runs_actTorn rfl rfl rfl

/-- The steps up to the one that stores the completion. -/
def workSteps (task : RestoreTask World Content) : List RestoreStep :=
  .lock :: (checkSteps ++ (stageSteps task ++ (swapSteps
    ++ (restoredConfigFiles.map .copyConfig ++ startSteps task))))

def completionSteps (task : RestoreTask World Content) : List RestoreStep :=
  workSteps task ++ [.commit .completed]

def jobSteps (task : RestoreTask World Content) : List RestoreStep :=
  completionSteps task ++ [.dropRollback, .unlock]

theorem runs_lockedRestore
    : Runs task.raises task.meaning (jobSteps task) (lockedRestore task) := by
  have completed : Runs task.raises task.meaning [.commit .completed, .dropRollback] (do
      changeData (changeRestoreJob task.job.id (completeJob task.now))
      commit task .completed
      act task .dropRollback (onFiles fun files => { files with rollback := none })) :=
    runs_changeData_then rfl rfl rfl (runs_actOn rfl rfl rfl)
  have body : Runs task.raises task.meaning
      (checkSteps ++ (stageSteps task ++ (swapSteps ++ (restoredConfigFiles.map .copyConfig
        ++ (startSteps task ++ [.commit .completed, .dropRollback])))))
      (restoreBody task) := by
    refine runs_checkRestore.bind (runs_stageRestore.bind (runs_swapWorlds.bind ?_))
    exact (runs_copyConfigs restoredConfigFiles).bind (runs_restartServer.bind completed)
  have locked : Runs task.raises task.meaning [.lock] (perform task .lock) :=
    runs_perform rfl rfl rfl
  have unlock : task.meaning.tears .unlock = id := rfl
  have whole := locked.cons (body.closing rfl rfl unlock)
  have same : .lock :: ((checkSteps ++ (stageSteps task ++ (swapSteps
        ++ (restoredConfigFiles.map .copyConfig
          ++ (startSteps task ++ [.commit .completed, .dropRollback]))))) ++ [.unlock])
      = jobSteps task := by
    simp only [jobSteps, completionSteps, workSteps, List.append_assoc, List.cons_append,
      List.nil_append]
  rw [same] at whole
  exact whole

end Blockhost.RestoreRuns
