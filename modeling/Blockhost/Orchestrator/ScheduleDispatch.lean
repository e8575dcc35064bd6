import Blockhost.Orchestrator.BackupSteps
import Blockhost.Orchestrator.JobPrograms
import Blockhost.Library.Transactions
import Mathlib

/-! A pass of the backup scheduler. Its due schedules share one session: only the creation of a
backup commits it, and the first exception ends the pass.
-/

namespace Blockhost.ScheduleDispatch

open Library
open JobRuns (JobException pendingRollback changeSchedule)

-- Passes

/-- The calls for a schedule that may raise. -/
inductive ScheduleStep where
  | loadServer (scheduleId : Uuid)
  | askRunning (scheduleId : Uuid)
  | findActive (scheduleId : Uuid)
  | flush (scheduleId : Uuid)
  | commit (scheduleId : Uuid)
  | refresh (scheduleId : Uuid)
  | submit (scheduleId : Uuid)
deriving DecidableEq, Repr

/-- When a pass runs, how long it takes, and what it learns from outside. -/
structure SchedulePass where
  now : Instant
  elapsed : Nat := 0
  running : Uuid → Bool := fun _ => true
  raises : ScheduleStep → Option JobException := fun _ => none

abbrev ScheduleM := EStateM JobException (Transacted Database (List Uuid))

def nextScheduleRun (schedule : BackupSchedule) (fromTime : Instant) : Option Instant :=
  match schedule.intervalMinutes with
  | none | some 0 => none
  | some minutes => some (fromTime + seconds (60 * max 1 minutes))

def disableSchedule : Change BackupSchedule.id where
  apply schedule := { schedule with enabled := false }

def setNextRun (nextRunAt : Option Instant) : Change BackupSchedule.id where
  apply schedule := { schedule with nextRunAt }

def startSchedule (now : Instant) (nextRunAt : Option Instant) : Change BackupSchedule.id where
  apply schedule := { schedule with lastRunAt := some now, nextRunAt }

def scheduledBackup (schedule : BackupSchedule) (server : Server) (id : Uuid) : Backup where
  id := id
  serverId := server.id
  ownerId := schedule.ownerId
  worldName := worldName server
  storageKey := some (backupStorageKey server.id id)
  scheduleId := some schedule.id

def scheduledJob (server : Server) (backupId : Uuid) : Template BackupJob.id where
  make := Jobs.newBackupJob server backupId

def scheduledRows (now : Instant) (schedule : BackupSchedule) (server : Server) (db : Database)
    : Database :=
  changeSchedule schedule.id (startSchedule now (nextScheduleRun schedule now))
    { db with
      backups := db.backups.create ⟨scheduledBackup schedule server, fun _ => rfl⟩
      backupJobs := db.backupJobs.create (scheduledJob server db.backups.freshKey) }

/-- What follows the flush of the new backup. -/
def storeScheduled (pass : SchedulePass) (schedule : BackupSchedule) (server : Server)
    : ScheduleM Unit := do
  let state ← get
  changeData (scheduledRows pass.now schedule server)
  commitData pendingRollback pass.raises (.commit schedule.id)
  actOn pass.raises (.refresh schedule.id) id
  actOn pass.raises (.submit schedule.id)
    (fun submitted => submitted ++ [state.work.current.backupJobs.freshKey])

def dispatchUnlessBusy (pass : SchedulePass) (schedule : BackupSchedule) (server : Server)
    : ScheduleM Unit := do
  onlyIf schedule.deferIfJobActive (actOn pass.raises (.findActive schedule.id) id)
  let state ← get
  if schedule.deferIfJobActive && (activeBackup state.work.committed server.id).isSome then
    changeData (changeSchedule schedule.id (setNextRun (some (pass.now + seconds 300))))
  else do
    actOn pass.raises (.flush schedule.id) id
    storeScheduled pass schedule server

def dispatchFor (pass : SchedulePass) (schedule : BackupSchedule) (server : Server)
    : ScheduleM Unit := do
  onlyIf schedule.skipIfServerOffline (actOn pass.raises (.askRunning schedule.id) id)
  if schedule.skipIfServerOffline && !pass.running server.id then
    changeData (changeSchedule schedule.id (setNextRun (nextScheduleRun schedule pass.now)))
  else dispatchUnlessBusy pass schedule server

def dispatchSchedule (pass : SchedulePass) (schedule : BackupSchedule) : ScheduleM Unit := do
  actOn pass.raises (.loadServer schedule.id) id
  let state ← get
  match state.work.current.servers.get? schedule.serverId with
  | none => changeData (changeSchedule schedule.id disableSchedule)
  | some server => dispatchFor pass schedule server

def dispatchAll (pass : SchedulePass) : List BackupSchedule → ScheduleM Unit
  | [] => pure ()
  | schedule :: rest => do
      dispatchSchedule pass schedule
      dispatchAll pass rest

def dueSchedules (now : Instant) (db : Database) : List BackupSchedule :=
  db.backupSchedules.rows.filter (fun schedule =>
    schedule.enabled && schedule.nextRunAt.any (· ≤ now))

structure PassOutcome where
  db : Database
  submitted : List Uuid
  dispatchedCount : Nat

/-- `dispatch_due_backup_schedules`: an exception is logged, and the session closed. -/
def dispatchDueBackupSchedules (pass : SchedulePass) (db : Database) : PassOutcome :=
  match dispatchAll pass (dueSchedules pass.now db) ⟨{ committed := db }, []⟩ with
  | .ok _ state => ⟨state.work.committed, state.vars, state.vars.length⟩
  | .error _ state => ⟨state.work.committed, state.vars, 0⟩

-- Outcomes

/-- What becomes of a due schedule. -/
inductive ScheduleOutcome where
  | missing
  | offline
  | busy
  | ready (server : Server)

def outcomeFor (pass : SchedulePass) (schedule : BackupSchedule) (active : Uuid → Bool)
    : Option Server → ScheduleOutcome
  | none => .missing
  | some server =>
      if schedule.skipIfServerOffline && !pass.running server.id then .offline
      else if schedule.deferIfJobActive && active server.id then .busy
      else .ready server

/-- The decision by what the session reads. -/
def outcomeIn (pass : SchedulePass) (work : UnitOfWork Database) (schedule : BackupSchedule)
    : ScheduleOutcome :=
  outcomeFor pass schedule (fun serverId => (activeBackup work.committed serverId).isSome)
    (work.current.servers.get? schedule.serverId)

namespace ScheduleOutcome

/-- The calls for a schedule with a server before its decision is carried out. -/
def questions (schedule : BackupSchedule) : ScheduleOutcome → List ScheduleStep
  | .missing => []
  | .offline => [.askRunning schedule.id]
  | .busy =>
      (if schedule.skipIfServerOffline then [.askRunning schedule.id] else [])
        ++ [.findActive schedule.id]
  | .ready _ =>
      (if schedule.skipIfServerOffline then [.askRunning schedule.id] else [])
        ++ ((if schedule.deferIfJobActive then [.findActive schedule.id] else [])
          ++ [.flush schedule.id])

/-- The calls before a decision is carried out. -/
def checks (schedule : BackupSchedule) (outcome : ScheduleOutcome) : List ScheduleStep :=
  .loadServer schedule.id :: outcome.questions schedule

/-- The calls up to the commit of the schedule, if it comes to one. -/
def decisive (schedule : BackupSchedule) (outcome : ScheduleOutcome) : List ScheduleStep :=
  match outcome with
  | .ready _ => outcome.checks schedule ++ [.commit schedule.id]
  | _ => outcome.checks schedule

def steps (schedule : BackupSchedule) (outcome : ScheduleOutcome) : List ScheduleStep :=
  match outcome with
  | .ready _ => outcome.decisive schedule ++ [.refresh schedule.id, .submit schedule.id]
  | _ => outcome.decisive schedule

def change (pass : SchedulePass) (schedule : BackupSchedule)
    : ScheduleOutcome → Change BackupSchedule.id
  | .missing => disableSchedule
  | .offline => setNextRun (nextScheduleRun schedule pass.now)
  | .busy => setNextRun (some (pass.now + seconds 300))
  | .ready _ => startSchedule pass.now (nextScheduleRun schedule pass.now)

/-- The rows that an outcome leaves to be committed. -/
def rows (pass : SchedulePass) (schedule : BackupSchedule) (outcome : ScheduleOutcome)
    : Database → Database :=
  match outcome with
  | .ready server => scheduledRows pass.now schedule server
  | _ => changeSchedule schedule.id (outcome.change pass schedule)

/-- The session then: only a created backup is committed. -/
def after (pass : SchedulePass) (schedule : BackupSchedule) (outcome : ScheduleOutcome)
    (work : UnitOfWork Database)
    : UnitOfWork Database :=
  match outcome with
  | .ready _ => (work.change (outcome.rows pass schedule)).flush
  | _ => work.change (outcome.rows pass schedule)

def starts : ScheduleOutcome → Option Uuid
  | .ready server => some server.id
  | _ => none

/-- The next run of a schedule lies after the end of the pass, if its server is there. -/
def Renews (pass : SchedulePass) (schedule : BackupSchedule) : ScheduleOutcome → Prop
  | .missing => True
  | .busy => (pass.elapsed : Int) < seconds 300
  | .offline | .ready _ =>
      ∃ minutes, schedule.intervalMinutes = some minutes ∧ minutes ≠ 0
        ∧ (pass.elapsed : Int) < seconds (60 * max 1 minutes)

end ScheduleOutcome

-- Single schedules

variable {pass : SchedulePass} {schedule : BackupSchedule}
  {state : Transacted Database (List Uuid)}

/-- A computation makes calls that leave the state as it is, and goes on as another one. -/
structure AfterCalls (raises : ScheduleStep → Option JobException) (calls : List ScheduleStep)
    (state : Transacted Database (List Uuid)) (computation later : ScheduleM Unit)
    : Prop where
  passes : AllPass raises calls → computation state = later state
  fails : ¬ AllPass raises calls → ∃ failure, computation state = .error failure state

namespace AfterCalls

variable {raises : ScheduleStep → Option JobException} {calls : List ScheduleStep}
  {computation other later : ScheduleM Unit}

theorem refl : AfterCalls raises [] state later later :=
  ⟨fun _ => rfl, fun fails => absurd (List.forall_mem_nil _) fails⟩

theorem of_run (rest : AfterCalls raises calls state other later)
    (ran : computation state = other state)
    : AfterCalls raises calls state computation later :=
  ⟨fun all => ran.trans (rest.passes all), fun fails => ran ▸ rest.fails fails⟩

theorem call {step : ScheduleStep} (rest : AfterCalls raises calls state computation later)
    : AfterCalls raises (step :: calls) state
        (do actOn raises step id; computation) later := by
  cases outcome : raises step with
  | none =>
      have ran : (do actOn raises step id; computation) state = computation state :=
        state_bind_run (actOn_ok outcome)
      refine ⟨?_, ?_⟩
      · intro all
        exact ran.trans (rest.passes (List.forall_mem_cons.mp all).2)
      · intro fails
        rw [ran]
        exact rest.fails fun all => fails (List.forall_mem_cons.mpr ⟨outcome, all⟩)
  | some failure =>
      refine ⟨?_, fun _ => ⟨failure, state_bind_error (actOn_error outcome)⟩⟩
      intro all
      cases outcome.symm.trans (all step List.mem_cons_self)

theorem call_if {wanted : Bool} {step : ScheduleStep}
    (rest : AfterCalls raises calls state computation later)
    : AfterCalls raises ((if wanted then [step] else []) ++ calls) state
        (do onlyIf wanted (actOn raises step id); computation) later := by
  cases wanted with
  | true => exact rest.call
  | false => exact rest

end AfterCalls

/-- What a schedule comes to after its calls. -/
def carryOut (pass : SchedulePass) (schedule : BackupSchedule) : ScheduleOutcome → ScheduleM Unit
  | .ready server => storeScheduled pass schedule server
  | outcome => changeData (outcome.rows pass schedule)

theorem dispatchUnlessBusy_busy {server : Server}
    (waits
      : (schedule.deferIfJobActive
          && (activeBackup state.work.committed server.id).isSome) = true)
    : AfterCalls pass.raises [.findActive schedule.id] state
        (dispatchUnlessBusy pass schedule server) (carryOut pass schedule .busy) := by
  have defer : schedule.deferIfJobActive = true := (Bool.and_eq_true_iff.mp waits).1
  unfold dispatchUnlessBusy
  rw [defer]
  refine AfterCalls.call (AfterCalls.refl.of_run ((state_bind_run rfl).trans ?_))
  rw [defer] at waits
  simp only [waits, if_true]
  rfl

theorem dispatchUnlessBusy_ready {server : Server}
    (free
      : ¬ (schedule.deferIfJobActive
          && (activeBackup state.work.committed server.id).isSome) = true)
    : AfterCalls pass.raises
        ((if schedule.deferIfJobActive then [.findActive schedule.id] else [])
          ++ [.flush schedule.id])
        state (dispatchUnlessBusy pass schedule server)
        (carryOut pass schedule (.ready server)) := by
  unfold dispatchUnlessBusy
  refine AfterCalls.call_if (AfterCalls.of_run AfterCalls.refl.call ?_)
  refine (state_bind_run rfl).trans ?_
  simp only [free, Bool.false_eq_true, if_false]
  rfl

theorem dispatchFor_calls (server : Server) (outcome : ScheduleOutcome)
    (decided
      : outcomeFor pass schedule
          (fun serverId => (activeBackup state.work.committed serverId).isSome) (some server)
        = outcome)
    : AfterCalls pass.raises (outcome.questions schedule) state
        (dispatchFor pass schedule server) (carryOut pass schedule outcome) := by
  subst decided
  unfold dispatchFor outcomeFor
  dsimp only
  split
  · rename_i skips
    have skip : schedule.skipIfServerOffline = true := (Bool.and_eq_true_iff.mp skips).1
    rw [skip]
    exact AfterCalls.refl.call
  · split
    · rename_i waits
      exact AfterCalls.call_if (dispatchUnlessBusy_busy waits)
    · rename_i free
      exact AfterCalls.call_if (dispatchUnlessBusy_ready free)

theorem dispatchSchedule_calls (pass : SchedulePass) (schedule : BackupSchedule)
    (state : Transacted Database (List Uuid))
    : AfterCalls pass.raises ((outcomeIn pass state.work schedule).checks schedule) state
        (dispatchSchedule pass schedule)
        (carryOut pass schedule (outcomeIn pass state.work schedule)) := by
  unfold outcomeIn dispatchSchedule
  cases found : state.work.current.servers.get? schedule.serverId with
  | none =>
      refine AfterCalls.call (AfterCalls.of_run AfterCalls.refl ?_)
      refine (state_bind_run rfl).trans ?_
      simp only [found]
      rfl
  | some server =>
      refine AfterCalls.call (AfterCalls.of_run (dispatchFor_calls server _ rfl) ?_)
      refine (state_bind_run rfl).trans ?_
      simp only [found]

/-- How a schedule leaves the session: all its calls pass, or one of them ends the pass, after or
before the commit.
-/
inductive Leaves (pass : SchedulePass) (schedule : BackupSchedule) (outcome : ScheduleOutcome)
    (work : UnitOfWork Database)
    : EStateM.Result JobException (Transacted Database (List Uuid)) Unit → Prop where
  | done {next : Transacted Database (List Uuid)}
      (passes : AllPass pass.raises (outcome.steps schedule))
      (reached : next.work = outcome.after pass schedule work)
      : Leaves pass schedule outcome work (.ok () next)
  | late {server : Server} {failure : JobException} {left : Transacted Database (List Uuid)}
      (ready : outcome = .ready server)
      (decided : AllPass pass.raises (outcome.decisive schedule))
      (fails : ¬ AllPass pass.raises (outcome.steps schedule))
      (stored : left.work = outcome.after pass schedule work)
      : Leaves pass schedule outcome work (.error failure left)
  | lost {failure : JobException} {left : Transacted Database (List Uuid)}
      (fails : ¬ AllPass pass.raises (outcome.decisive schedule))
      (stored : left.work.committed = work.committed)
      : Leaves pass schedule outcome work (.error failure left)

theorem storeScheduled_leaves {server : Server} (usable : state.work.usable = true)
    (checked : AllPass pass.raises ((ScheduleOutcome.ready server).checks schedule))
    : Leaves pass schedule (.ready server) state.work
        (storeScheduled pass schedule server state) := by
  obtain ⟨pending, work, begun⟩ :
      ∃ pending : Transacted Database (List Uuid),
        pending.work = state.work.change (scheduledRows pass.now schedule server)
        ∧ storeScheduled pass schedule server state
          = (do
              commitData pendingRollback pass.raises (.commit schedule.id)
              actOn pass.raises (.refresh schedule.id) id
              actOn pass.raises (.submit schedule.id)
                (fun submitted => submitted ++ [state.work.current.backupJobs.freshKey]))
              pending :=
    ⟨_, rfl, (state_bind_run rfl).trans (state_bind_run rfl)⟩
  have still : pending.work.usable = true := (congrArg UnitOfWork.usable work).trans usable
  have stored : pending.work.flush
      = (ScheduleOutcome.ready server).after pass schedule state.work :=
    congrArg UnitOfWork.flush work
  have spoilt : pending.work.spoil.committed = state.work.committed := by
    rw [UnitOfWork.spoil_committed, work, UnitOfWork.change_committed]
  rw [begun]
  cases commits : pass.raises (.commit schedule.id) with
  | some failure =>
      rw [state_bind_error (commitData_error still commits)]
      refine .lost ?_ spoilt
      intro all
      cases commits.symm.trans (all _ (List.mem_append_right _ List.mem_cons_self))
  | none =>
      have decided : AllPass pass.raises ((ScheduleOutcome.ready server).decisive schedule) :=
        List.forall_mem_append.mpr ⟨checked, List.forall_mem_singleton.mpr commits⟩
      rw [state_bind_run (commitData_ok still commits)]
      cases refreshes : pass.raises (.refresh schedule.id) with
      | some failure =>
          rw [state_bind_error (actOn_error refreshes)]
          refine .late rfl decided ?_ stored
          intro all
          cases refreshes.symm.trans (all _ (List.mem_append_right _ List.mem_cons_self))
      | none =>
          rw [state_bind_run (actOn_ok refreshes)]
          cases submits : pass.raises (.submit schedule.id) with
          | some failure =>
              rw [actOn_error submits]
              refine .late rfl decided ?_ stored
              intro all
              cases submits.symm.trans (all _ (List.mem_append_right _ (by simp)))
          | none =>
              rw [actOn_ok submits]
              refine .done ?_ stored
              refine List.forall_mem_append.mpr ⟨decided, ?_⟩
              simp [refreshes, submits]

theorem dispatchSchedule_leaves (pass : SchedulePass) (schedule : BackupSchedule)
    (usable : state.work.usable = true)
    : Leaves pass schedule (outcomeIn pass state.work schedule) state.work
        (dispatchSchedule pass schedule state) := by
  have calls := dispatchSchedule_calls pass schedule state
  generalize outcomeIn pass state.work schedule = outcome at calls ⊢
  by_cases checked : AllPass pass.raises (outcome.checks schedule)
  · rw [calls.passes checked]
    cases outcome with
    | ready server => exact storeScheduled_leaves usable checked
    | missing | offline | busy => exact .done checked rfl
  · obtain ⟨failure, failed⟩ := calls.fails checked
    rw [failed]
    refine .lost ?_ rfl
    cases outcome with
    | ready server => exact fun all => checked (List.forall_mem_append.mp all).1
    | missing | offline | busy => exact checked

end Blockhost.ScheduleDispatch
