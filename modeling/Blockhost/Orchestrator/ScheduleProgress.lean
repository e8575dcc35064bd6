import Blockhost.Orchestrator.ScheduleDispatch
import Mathlib.Data.List.Count

/-! When a pass of the backup scheduler makes durable progress: only with its last due schedule
ready, since nothing else commits what the schedules before it have been given.
-/

namespace Blockhost.ScheduleDispatch

open Library
open JobRuns (JobException changeSchedule)

-- Decisions of a pass

abbrev Handled := BackupSchedule × ScheduleOutcome

def activeWith (db : Database) (done : List Handled) (serverId : Uuid) : Bool :=
  (activeBackup db serverId).isSome || done.any (fun handled => handled.2.starts = some serverId)

/-- The decision for a schedule by the rows before the pass. -/
def nextOutcome (pass : SchedulePass) (db : Database) (done : List Handled)
    (schedule : BackupSchedule)
    : ScheduleOutcome :=
  outcomeFor pass schedule (activeWith db done) (db.servers.get? schedule.serverId)

def outcomes (pass : SchedulePass) (db : Database)
    : List Handled → List BackupSchedule → List Handled
  | done, [] => done
  | done, schedule :: rest =>
      outcomes pass db (done ++ [(schedule, nextOutcome pass db done schedule)]) rest

/-- All calls pass for the schedules before the last one, which is ready and comes to its commit.
-/
def Settles (pass : SchedulePass) (db : Database) : List Handled → List BackupSchedule → Prop
  | _, [] => True
  | done, [last] =>
      (nextOutcome pass db done last).starts.isSome = true
      ∧ AllPass pass.raises ((nextOutcome pass db done last).decisive last)
  | done, schedule :: next :: rest =>
      AllPass pass.raises ((nextOutcome pass db done schedule).steps schedule)
      ∧ Settles pass db (done ++ [(schedule, nextOutcome pass db done schedule)]) (next :: rest)

-- Progress

/-- A schedule is disabled, or runs next after the end of the pass. -/
def Progressed (pass : SchedulePass) (after : Database) (scheduleId : Uuid) : Prop :=
  ∃ row, after.backupSchedules.get? scheduleId = some row
    ∧ (row.enabled = false
      ∨ ∃ next, row.nextRunAt = some next ∧ pass.now + pass.elapsed < next)

def jobSchedule (db : Database) (job : BackupJob) : Option Uuid :=
  (db.backups.get? job.backupId).bind Backup.scheduleId

/-- The jobs that a schedule has got in a pass. -/
def newJobs (before after : Database) (scheduleId : Uuid) : List BackupJob :=
  (after.backupJobs.rows.drop before.backupJobs.rows.length).filter (fun job =>
    jobSchedule after job = some scheduleId)

structure DurableProgress (pass : SchedulePass) (db : Database) : Prop where
  progress
    : ∀ schedule ∈ dueSchedules pass.now db,
      Progressed pass (dispatchDueBackupSchedules pass db).db schedule.id
  single
    : ∀ schedule ∈ dueSchedules pass.now db,
      (newJobs db (dispatchDueBackupSchedules pass db).db schedule.id).length ≤ 1
  /-- A schedule whose own calls pass is handled, whatever the calls for the others do. -/
  isolated
    : ∀ schedule outcome, (schedule, outcome) ∈ outcomes pass db [] (dueSchedules pass.now db)
      → AllPass pass.raises (outcome.steps schedule)
      → (dispatchDueBackupSchedules pass db).db.backupSchedules.get? schedule.id
          = some ((outcome.change pass schedule).apply schedule)
        ∧ (newJobs db (dispatchDueBackupSchedules pass db).db schedule.id).length
          = if outcome.starts.isSome then 1 else 0

-- What a pass has reached

variable {pass : SchedulePass} {db : Database} {done : List Handled}
  {work : UnitOfWork Database} {schedule : BackupSchedule}

/-- The schedules that have got a job. -/
def startedSchedules (done : List Handled) : List Uuid :=
  (done.filter (fun handled => handled.2.starts.isSome)).map (fun handled => handled.1.id)

/-- The rows after some schedules have had their turn. -/
structure Handles (pass : SchedulePass) (db : Database) (done : List Handled) (rows : Database)
    : Prop where
  servers : rows.servers = db.servers
  active : ∀ serverId, (activeBackup rows serverId).isSome = activeWith db done serverId
  changed
    : ∀ schedule outcome, (schedule, outcome) ∈ done
      → rows.backupSchedules.get? schedule.id
        = some ((outcome.change pass schedule).apply schedule)
  others
    : ∀ id, id ∉ done.map (fun handled => handled.1.id)
      → rows.backupSchedules.get? id = db.backupSchedules.get? id
  jobs
    : ∃ jobs, rows.backupJobs.rows = db.backupJobs.rows ++ jobs
      ∧ jobs.map (jobSchedule rows) = (startedSchedules done).map some

/-- The session then: what is not committed is in schedules that have had their turn. -/
structure Reached (pass : SchedulePass) (db : Database) (done : List Handled)
    (work : UnitOfWork Database)
    : Prop where
  usable : work.usable = true
  handles : Handles pass db done work.current
  jobs : work.committed.backupJobs = work.current.backupJobs
  others
    : ∀ id, id ∉ done.map (fun handled => handled.1.id)
      → work.committed.backupSchedules.get? id = db.backupSchedules.get? id

theorem Reached.outcome (reached : Reached pass db done work) (schedule : BackupSchedule)
    : outcomeIn pass work schedule = nextOutcome pass db done schedule := by
  have active : (fun serverId => (activeBackup work.committed serverId).isSome)
      = activeWith db done := by
    funext serverId
    rw [← reached.handles.active serverId, activeBackup, reached.jobs]
    rfl
  rw [outcomeIn, nextOutcome, active, reached.handles.servers]

section Turns

variable {rows : Database} {outcome : ScheduleOutcome}

theorem Handles.schedules (handles : Handles pass db done rows)
    (stored : db.backupSchedules.get? schedule.id = some schedule)
    (new : schedule.id ∉ done.map (fun handled => handled.1.id)) (outcome : ScheduleOutcome)
    : (∀ other result, (other, result) ∈ done ++ [(schedule, outcome)]
        → (rows.backupSchedules.modify schedule.id (outcome.change pass schedule)).get? other.id
          = some ((result.change pass other).apply other))
      ∧ ∀ id, id ∉ (done ++ [(schedule, outcome)]).map (fun handled => handled.1.id)
        → (rows.backupSchedules.modify schedule.id (outcome.change pass schedule)).get? id
          = db.backupSchedules.get? id := by
  refine ⟨?_, ?_⟩
  · intro other result member
    rw [Table.get?_modify]
    rcases List.mem_append.mp member with before | own
    · have differs : other.id ≠ schedule.id :=
        fun same => new (same ▸ List.mem_map_of_mem before)
      rw [if_neg differs]
      exact handles.changed other result before
    · cases List.mem_singleton.mp own
      rw [if_pos rfl, handles.others _ new, stored]
      rfl
  · intro id absent
    rw [List.map_append, List.mem_append, not_or] at absent
    obtain ⟨before, own⟩ := absent
    rw [Table.get?_modify, if_neg fun same => own (by simp [same])]
    exact handles.others id before

theorem Handles.unready (handles : Handles pass db done rows)
    (stored : db.backupSchedules.get? schedule.id = some schedule)
    (new : schedule.id ∉ done.map (fun handled => handled.1.id))
    (unready : outcome.starts = none)
    : Handles pass db (done ++ [(schedule, outcome)])
        (changeSchedule schedule.id (outcome.change pass schedule) rows) := by
  obtain ⟨changed, others⟩ := handles.schedules stored new outcome
  refine ⟨handles.servers, ?_, changed, others, ?_⟩
  · intro serverId
    refine (handles.active serverId).trans ?_
    simp [activeWith, unready]
  · obtain ⟨jobs, added, schedules⟩ := handles.jobs
    refine ⟨jobs, added, schedules.trans ?_⟩
    simp [startedSchedules, unready]

theorem Handles.ready {server : Server} (handles : Handles pass db done rows)
    (stored : db.backupSchedules.get? schedule.id = some schedule)
    (new : schedule.id ∉ done.map (fun handled => handled.1.id))
    : Handles pass db (done ++ [(schedule, .ready server)])
        (scheduledRows pass.now schedule server rows) := by
  obtain ⟨changed, others⟩ := handles.schedules stored new (.ready server)
  refine ⟨handles.servers, ?_, changed, others, ?_⟩
  · intro serverId
    have before := handles.active serverId
    have found : activeBackup (scheduledRows pass.now schedule server rows) serverId
        = (rows.backupJobs.rows ++ [Jobs.newBackupJob server rows.backups.freshKey
            rows.backupJobs.freshKey]).find? (fun job =>
              job.serverId = serverId && job.status.activeJob) :=
      rfl
    rw [activeBackup] at before
    rw [found, List.find?_append, Option.isSome_or, before]
    by_cases same : server.id = serverId
    · simp [activeWith, ScheduleOutcome.starts, Jobs.newBackupJob, BackupStatus.activeJob, same]
    · simp [activeWith, ScheduleOutcome.starts, Jobs.newBackupJob, same]
  · obtain ⟨jobs, added, schedules⟩ := handles.jobs
    refine ⟨jobs ++ [Jobs.newBackupJob server rows.backups.freshKey rows.backupJobs.freshKey],
      ?_, ?_⟩
    · have appended : (scheduledRows pass.now schedule server rows).backupJobs.rows
          = rows.backupJobs.rows ++ [Jobs.newBackupJob server rows.backups.freshKey
              rows.backupJobs.freshKey] :=
        rfl
      rw [appended, added, List.append_assoc]
    · have kept : ∀ job ∈ jobs, jobSchedule (scheduledRows pass.now schedule server rows) job
          = jobSchedule rows job := by
        intro job member
        have found : jobSchedule rows job ∈ jobs.map (jobSchedule rows) :=
          List.mem_map_of_mem member
        rw [schedules] at found
        obtain ⟨scheduleId, _, same⟩ := List.mem_map.mp found
        obtain ⟨backup, there, _⟩ := Option.bind_eq_some_iff.mp same.symm
        have differs : job.backupId ≠ rows.backups.freshKey := by
          intro same
          rw [same, Table.get?_freshKey] at there
          cases there
        exact congrArg (fun found => Option.bind found Backup.scheduleId)
          ((Table.get?_create _ _ _).trans (if_neg differs))
      have own : jobSchedule (scheduledRows pass.now schedule server rows)
          (Jobs.newBackupJob server rows.backups.freshKey rows.backupJobs.freshKey)
          = some schedule.id :=
        congrArg (fun found => Option.bind found Backup.scheduleId)
          ((Table.get?_create _ _ _).trans (if_pos rfl))
      rw [List.map_append, List.map_congr_left kept, schedules]
      simp [startedSchedules, ScheduleOutcome.starts, own]

theorem Handles.next (handles : Handles pass db done rows)
    (stored : db.backupSchedules.get? schedule.id = some schedule)
    (new : schedule.id ∉ done.map (fun handled => handled.1.id)) (outcome : ScheduleOutcome)
    : Handles pass db (done ++ [(schedule, outcome)]) (outcome.rows pass schedule rows) := by
  cases outcome with
  | ready server => exact handles.ready stored new
  | missing | offline | busy => exact handles.unready stored new rfl

theorem Reached.next (reached : Reached pass db done work)
    (stored : db.backupSchedules.get? schedule.id = some schedule)
    (new : schedule.id ∉ done.map (fun handled => handled.1.id)) (outcome : ScheduleOutcome)
    : Reached pass db (done ++ [(schedule, outcome)]) (outcome.after pass schedule work) := by
  have handles := reached.handles.next stored new outcome
  cases outcome with
  | ready server => exact ⟨rfl, handles, rfl, handles.others⟩
  | missing | offline | busy =>
      refine ⟨reached.usable, handles, reached.jobs, ?_⟩
      intro id absent
      rw [List.map_append, List.mem_append, not_or] at absent
      exact reached.others id absent.1

end Turns

-- Whole passes

def committedAfter (pass : SchedulePass) (schedules : List BackupSchedule)
    (state : Transacted Database (List Uuid))
    : Database :=
  (finalState (dispatchAll pass schedules state)).work.committed

theorem committedAfter_nil (state : Transacted Database (List Uuid))
    : committedAfter pass [] state = state.work.committed :=
  rfl

/-- Schedules that are stored and have not had their turn. -/
structure Waiting (db : Database) (done : List Handled) (schedules : List BackupSchedule)
    : Prop where
  stored
    : ∀ schedule ∈ schedules, db.backupSchedules.get? schedule.id = some schedule
  new : ∀ schedule ∈ schedules, schedule.id ∉ done.map (fun handled => handled.1.id)
  once : (schedules.map BackupSchedule.id).Nodup

theorem Waiting.next {rest : List BackupSchedule} (waiting : Waiting db done (schedule :: rest))
    (outcome : ScheduleOutcome)
    : Waiting db (done ++ [(schedule, outcome)]) rest := by
  have once := waiting.once
  rw [List.map_cons, List.nodup_cons] at once
  refine ⟨?_, ?_, once.2⟩
  · exact fun other member => waiting.stored other (List.mem_cons_of_mem _ member)
  · intro other member listed
    rw [List.map_append, List.mem_append] at listed
    rcases listed with before | own
    · exact waiting.new other (List.mem_cons_of_mem _ member) before
    · have same : other.id = schedule.id := by simpa using own
      exact once.1 (same ▸ List.mem_map_of_mem member)

theorem decisive_of_steps {outcome : ScheduleOutcome}
    (passes : AllPass pass.raises (outcome.steps schedule))
    : AllPass pass.raises (outcome.decisive schedule) := by
  cases outcome with
  | ready server => exact (List.forall_mem_append.mp passes).1
  | missing | offline | busy => exact passes

theorem after_committed {outcome : ScheduleOutcome} (ready : outcome.starts.isSome = true)
    (work : UnitOfWork Database)
    : (outcome.after pass schedule work).committed
      = (outcome.after pass schedule work).current := by
  cases outcome with
  | ready server => rfl
  | missing | offline | busy => cases ready

theorem after_kept {outcome : ScheduleOutcome} (unready : ¬ outcome.starts.isSome = true)
    (work : UnitOfWork Database)
    : (outcome.after pass schedule work).committed = work.committed := by
  cases outcome with
  | ready server => exact absurd rfl unready
  | missing | offline | busy => rfl

section Passes

variable {schedules : List BackupSchedule} {state : Transacted Database (List Uuid)}

theorem committedAfter_cons (reached : Reached pass db done state.work)
    (schedule : BackupSchedule) (rest : List BackupSchedule)
    : (AllPass pass.raises ((nextOutcome pass db done schedule).steps schedule)
        ∧ ∃ next : Transacted Database (List Uuid),
          next.work = (nextOutcome pass db done schedule).after pass schedule state.work
          ∧ committedAfter pass (schedule :: rest) state = committedAfter pass rest next)
      ∨ ((nextOutcome pass db done schedule).starts.isSome = true
        ∧ AllPass pass.raises ((nextOutcome pass db done schedule).decisive schedule)
        ∧ ¬ AllPass pass.raises ((nextOutcome pass db done schedule).steps schedule)
        ∧ committedAfter pass (schedule :: rest) state
          = ((nextOutcome pass db done schedule).after pass schedule state.work).committed)
      ∨ (¬ AllPass pass.raises ((nextOutcome pass db done schedule).decisive schedule)
        ∧ committedAfter pass (schedule :: rest) state = state.work.committed) := by
  have leaves := dispatchSchedule_leaves pass schedule reached.usable
  rw [reached.outcome] at leaves
  unfold committedAfter
  rw [dispatchAll]
  generalize ran : dispatchSchedule pass schedule state = result at leaves
  cases leaves with
  | @done next passes reached =>
      rw [state_bind_run ran]
      exact .inl ⟨passes, next, reached, rfl⟩
  | late ready decided fails stored =>
      rw [state_bind_error ran]
      refine .inr (.inl ⟨by rw [ready]; rfl, decided, fails, ?_⟩)
      exact congrArg UnitOfWork.committed stored
  | lost fails stored =>
      rw [state_bind_error ran]
      exact .inr (.inr ⟨fails, stored⟩)

/-- A pass that settles commits all that its schedules have been given, by induction on them. -/
theorem settled_committed (reached : Reached pass db done state.work)
    (waiting : Waiting db done schedules) (settles : Settles pass db done schedules)
    (nonempty : schedules ≠ [])
    : Handles pass db (outcomes pass db done schedules)
        (committedAfter pass schedules state) := by
  induction schedules generalizing done state with
  | nil => exact absurd rfl nonempty
  | cons schedule rest ih =>
      have next := reached.next (waiting.stored schedule List.mem_cons_self)
        (waiting.new schedule List.mem_cons_self) (nextOutcome pass db done schedule)
      have turns := committedAfter_cons reached schedule rest
      cases rest with
      | nil =>
          obtain ⟨ready, decided⟩ := settles
          have handles := next.handles
          rw [← after_committed ready] at handles
          rcases turns with ⟨_, left, work, same⟩ | ⟨_, _, _, same⟩ | ⟨fails, _⟩
          · rw [same, committedAfter_nil, work]
            exact handles
          · rw [same]
            exact handles
          · exact absurd decided fails
      | cons second rest =>
          obtain ⟨passes, later⟩ := settles
          rcases turns with ⟨_, left, work, same⟩ | ⟨_, _, fails, _⟩ | ⟨fails, _⟩
          · rw [same]
            exact ih (work ▸ next) (waiting.next _) later (List.cons_ne_nil _ _)
          · exact absurd passes fails
          · exact absurd (decisive_of_steps passes) fails

/-- A pass that does not settle leaves its last schedule as it was, by induction on them. -/
theorem unsettled_kept (reached : Reached pass db done state.work)
    (waiting : Waiting db done schedules) (unsettled : ¬ Settles pass db done schedules)
    {last : BackupSchedule} (ends : schedules.getLast? = some last)
    : (committedAfter pass schedules state).backupSchedules.get? last.id = some last := by
  induction schedules generalizing done state with
  | nil => cases ends
  | cons schedule rest ih =>
      have next := reached.next (waiting.stored schedule List.mem_cons_self)
        (waiting.new schedule List.mem_cons_self) (nextOutcome pass db done schedule)
      have turns := committedAfter_cons reached schedule rest
      have member := List.mem_of_getLast? ends
      have kept : state.work.committed.backupSchedules.get? last.id = some last :=
        (reached.others last.id (waiting.new last member)).trans (waiting.stored last member)
      cases rest with
      | nil =>
          cases List.mem_singleton.mp member
          have apart : ¬ ((nextOutcome pass db done last).starts.isSome = true
              ∧ AllPass pass.raises ((nextOutcome pass db done last).decisive last)) :=
            unsettled
          rcases turns with ⟨passes, left, work, same⟩ | ⟨ready, decided, _⟩ | ⟨_, same⟩
          · have unready : ¬ (nextOutcome pass db done last).starts.isSome = true :=
              fun ready => apart ⟨ready, decisive_of_steps passes⟩
            rw [same, committedAfter_nil, work, after_kept unready]
            exact kept
          · exact absurd ⟨ready, decided⟩ apart
          · rw [same]
            exact kept
      | cons second rest =>
          have later : last ∈ second :: rest := by
            rw [List.getLast?_cons_cons] at ends
            exact List.mem_of_getLast? ends
          rcases turns with ⟨passes, left, work, same⟩ | ⟨_, _, _, same⟩ | ⟨_, same⟩
          · rw [same]
            refine ih (work ▸ next) (waiting.next _) ?_ ?_
            · exact fun settles => unsettled ⟨passes, settles⟩
            · rw [← ends, List.getLast?_cons_cons]
          · rw [same]
            exact (next.others last.id ((waiting.next _).new last later)).trans
              (waiting.stored last member)
          · rw [same]
            exact kept

end Passes

-- Durable progress

theorem mem_dueSchedules {now : Instant}
    : schedule ∈ dueSchedules now db
      ↔ schedule ∈ db.backupSchedules.rows ∧ schedule.enabled = true
        ∧ ∃ next, schedule.nextRunAt = some next ∧ next ≤ now := by
  cases found : schedule.nextRunAt <;> simp [dueSchedules, found]

theorem dispatched_db (pass : SchedulePass) (db : Database)
    : (dispatchDueBackupSchedules pass db).db
      = committedAfter pass (dueSchedules pass.now db) ⟨{ committed := db }, []⟩ := by
  unfold dispatchDueBackupSchedules committedAfter
  cases dispatchAll pass (dueSchedules pass.now db) ⟨{ committed := db }, []⟩ <;> rfl

theorem reached_start (pass : SchedulePass) (db : Database)
    : Reached pass db [] { committed := db } := by
  refine ⟨rfl, ⟨rfl, ?_, ?_, fun _ _ => rfl, [], ?_, rfl⟩, rfl, fun _ _ => rfl⟩
  · intro serverId
    simp [activeWith, UnitOfWork.current]
  · exact fun _ _ member => absurd member List.not_mem_nil
  · simp [UnitOfWork.current]

theorem waiting_start (now : Instant) (db : Database)
    : Waiting db [] (dueSchedules now db) := by
  refine ⟨?_, fun _ _ => List.not_mem_nil, ?_⟩
  · exact fun schedule member => Table.get?_of_mem (mem_dueSchedules.mp member).1
  · exact db.backupSchedules.unique.sublist (List.filter_sublist.map _)

/-- The decisions are for the schedules in their order, by induction on them. -/
theorem outcomes_schedules (pass : SchedulePass) (db : Database)
    (schedules : List BackupSchedule) (done : List Handled)
    : (outcomes pass db done schedules).map Prod.fst = done.map Prod.fst ++ schedules := by
  induction schedules generalizing done with
  | nil => simp [outcomes]
  | cons schedule rest ih => simp [outcomes, ih]

theorem Handles.length_newJobs {rows : Database} (handles : Handles pass db done rows)
    (scheduleId : Uuid)
    : (newJobs db rows scheduleId).length = (startedSchedules done).count scheduleId := by
  obtain ⟨jobs, added, schedules⟩ := handles.jobs
  have counted : (jobs.map (jobSchedule rows)).count (some scheduleId)
      = (startedSchedules done).count scheduleId := by
    rw [schedules]
    exact List.count_map_of_injective _ some (Option.some_injective _) scheduleId
  rw [newJobs, added, List.drop_left, ← counted, List.count, List.countP_map,
    List.countP_eq_length_filter]
  congr 2
  funext job
  simp [beq_eq_decide]

theorem nextScheduleRun_later
    : (∃ next, nextScheduleRun schedule pass.now = some next ∧ pass.now + pass.elapsed < next)
      ↔ ∃ minutes, schedule.intervalMinutes = some minutes ∧ minutes ≠ 0
        ∧ (pass.elapsed : Int) < seconds (60 * max 1 minutes) := by
  unfold nextScheduleRun
  cases schedule.intervalMinutes with
  | none => simp
  | some minutes =>
      by_cases zero : minutes = 0
      · simp [zero]
      · simp [zero]

theorem progressed_iff {outcome : ScheduleOutcome} {after : Database}
    (due : schedule ∈ dueSchedules pass.now db)
    (row
      : after.backupSchedules.get? schedule.id
        = some ((outcome.change pass schedule).apply schedule))
    : Progressed pass after schedule.id ↔ outcome.Renews pass schedule := by
  obtain ⟨_, enabled, _⟩ := mem_dueSchedules.mp due
  unfold Progressed
  rw [row]
  cases outcome with
  | missing => simp [ScheduleOutcome.change, disableSchedule, ScheduleOutcome.Renews]
  | busy => simp [ScheduleOutcome.change, setNextRun, ScheduleOutcome.Renews, enabled]
  | offline =>
      simp [ScheduleOutcome.change, setNextRun, ScheduleOutcome.Renews, enabled,
        ← nextScheduleRun_later]
  | ready server =>
      simp [ScheduleOutcome.change, startSchedule, ScheduleOutcome.Renews, enabled,
        ← nextScheduleRun_later]

theorem handles_of_settles (settles : Settles pass db [] (dueSchedules pass.now db))
    : Handles pass db (outcomes pass db [] (dueSchedules pass.now db))
        (dispatchDueBackupSchedules pass db).db := by
  rw [dispatched_db]
  by_cases nothing : dueSchedules pass.now db = []
  · rw [nothing, committedAfter_nil]
    exact (reached_start pass db).handles
  · exact settled_committed (reached_start pass db) (waiting_start pass.now db) settles nothing

theorem mem_due_iff
    : schedule ∈ dueSchedules pass.now db
      ↔ ∃ outcome, (schedule, outcome) ∈ outcomes pass db [] (dueSchedules pass.now db) := by
  have schedules := outcomes_schedules pass db (dueSchedules pass.now db) []
  rw [List.map_nil, List.nil_append] at schedules
  constructor
  · intro due
    obtain ⟨⟨_, outcome⟩, member, rfl⟩ := List.mem_map.mp (schedules.symm ▸ due)
    exact ⟨outcome, member⟩
  · rintro ⟨outcome, member⟩
    exact schedules ▸ List.mem_map_of_mem member

theorem outcomes_once (pass : SchedulePass) (db : Database)
    : ((outcomes pass db [] (dueSchedules pass.now db)).map
        (fun handled => handled.1.id)).Nodup := by
  have schedules := congrArg (List.map BackupSchedule.id)
    (outcomes_schedules pass db (dueSchedules pass.now db) [])
  rw [List.map_map] at schedules
  exact schedules ▸ (waiting_start pass.now db).once

theorem startedSchedules_once (once : (done.map (fun handled => handled.1.id)).Nodup)
    : (startedSchedules done).Nodup :=
  once.sublist (List.filter_sublist.map _)

theorem count_startedSchedules {outcome : ScheduleOutcome}
    (once : (done.map (fun handled => handled.1.id)).Nodup)
    (member : (schedule, outcome) ∈ done)
    : (startedSchedules done).count schedule.id = if outcome.starts.isSome then 1 else 0 := by
  split
  · rename_i starts
    refine List.count_eq_one_of_mem (startedSchedules_once once) ?_
    exact List.mem_map.mpr ⟨_, List.mem_filter.mpr ⟨member, starts⟩, rfl⟩
  · rename_i idle
    refine List.count_eq_zero.mpr ?_
    intro listed
    obtain ⟨other, found, same⟩ := List.mem_map.mp listed
    obtain ⟨stored, starts⟩ := List.mem_filter.mp found
    obtain rfl : other = (schedule, outcome) :=
      List.inj_on_of_nodup_map once stored member same
    exact idle starts

/-- A pass makes durable progress exactly when it settles and every decision gives its schedule a
later run.
-/
theorem durable_progress_iff (pass : SchedulePass) (db : Database)
    : DurableProgress pass db
      ↔ Settles pass db [] (dueSchedules pass.now db)
        ∧ ∀ schedule outcome,
          (schedule, outcome) ∈ outcomes pass db [] (dueSchedules pass.now db)
          → outcome.Renews pass schedule := by
  constructor
  · intro durable
    have settles : Settles pass db [] (dueSchedules pass.now db) := by
      by_contra unsettled
      cases ends : (dueSchedules pass.now db).getLast? with
      | none =>
          rw [List.getLast?_eq_none_iff.mp ends] at unsettled
          exact unsettled trivial
      | some last =>
          have start : Reached pass db []
              (⟨{ committed := db }, []⟩ : Transacted Database (List Uuid)).work :=
            reached_start pass db
          have kept := unsettled_kept start (waiting_start pass.now db) unsettled ends
          have missed := List.mem_of_getLast? ends
          obtain ⟨_, enabled, due, missed, past⟩ := mem_dueSchedules.mp missed
          obtain ⟨row, found, progressed⟩ := durable.progress last (List.mem_of_getLast? ends)
          rw [dispatched_db, kept] at found
          cases found
          rcases progressed with disabled | ⟨next, later, future⟩
          · cases enabled.symm.trans disabled
          · cases missed.symm.trans later
            have early : pass.now + pass.elapsed < pass.now := lt_of_lt_of_le future past
            exact absurd early
              (Int.not_lt.mpr (Int.le_add_of_nonneg_right (Int.natCast_nonneg _)))
    refine ⟨settles, ?_⟩
    intro schedule outcome member
    have due := mem_due_iff.mpr ⟨outcome, member⟩
    exact (progressed_iff due ((handles_of_settles settles).changed schedule outcome member)).mp
      (durable.progress schedule due)
  · rintro ⟨settles, renews⟩
    have handles := handles_of_settles settles
    refine ⟨?_, ?_, ?_⟩
    · intro schedule due
      obtain ⟨outcome, member⟩ := mem_due_iff.mp due
      exact (progressed_iff due (handles.changed schedule outcome member)).mpr
        (renews schedule outcome member)
    · intro schedule _
      rw [handles.length_newJobs]
      exact List.nodup_iff_count_le_one.mp (startedSchedules_once (outcomes_once pass db)) _
    · intro schedule outcome member _
      refine ⟨handles.changed schedule outcome member, ?_⟩
      rw [handles.length_newJobs]
      exact count_startedSchedules (outcomes_once pass db) member

/-- A due schedule whose server is gone. -/
def orphanedSchedule : BackupSchedule where
  id := 3
  serverId := 0
  ownerId := 7
  intervalMinutes := some 60
  nextRunAt := some 0

def orphanedSchedules : Database where
  backupSchedules := ⟨[orphanedSchedule], by simp⟩

/-- Its end is never committed, so it is due again in the next pass. -/
theorem orphaned_schedule_stays_due : ¬ DurableProgress { now := 0 } orphanedSchedules := by
  intro durable
  have due : orphanedSchedule ∈ dueSchedules 0 orphanedSchedules := by decide
  obtain ⟨row, found, progressed⟩ := durable.progress _ due
  cases found
  rcases progressed with disabled | ⟨next, later, future⟩
  · cases disabled
  · cases later
    exact absurd future (by decide)

end Blockhost.ScheduleDispatch
