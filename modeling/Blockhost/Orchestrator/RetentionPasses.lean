import Blockhost.Orchestrator.BackupOperations

/-! What a retention takes and what it leaves. It picks the backups beyond the newest ones once,
and works on the rows and files of these alone, whatever its steps run into.
-/

namespace Blockhost.JobRuns

open Library

variable {task : BackupTask} {state : BackupState} {retentionCount : Option Int}

-- What is picked

/-- The backups of a server that a retention counts. -/
structure Counted (serverId : Uuid) (backup : Backup) : Prop where
  server : backup.serverId = serverId
  completed : backup.status = .completed
  undeleted : backup.deletedAt = none
  unpinned : backup.pinned = false

/-- The backups that stay although they are counted. -/
def newestBackups (task : BackupTask) (retentionCount : Option Int) (db : Database)
    : List Backup :=
  (retainable task.server.id db).take (keepCount retentionCount task.backupRetentionCount).toNat

/-- `backups[keep:]` -/
def excessBackups (task : BackupTask) (retentionCount : Option Int) (db : Database)
    : List Backup :=
  (retainable task.server.id db).drop (keepCount retentionCount task.backupRetentionCount).toNat

theorem mem_retainable {serverId : Uuid} {db : Database} {backup : Backup}
    : backup ∈ retainable serverId db ↔ backup ∈ db.backups.rows ∧ Counted serverId backup := by
  have counted
      : Counted serverId backup
        ↔ ((backup.serverId = serverId ∧ backup.status = .completed)
            ∧ backup.deletedAt = none) ∧ backup.pinned = false :=
    ⟨fun ⟨server, completed, undeleted, unpinned⟩ =>
        ⟨⟨⟨server, completed⟩, undeleted⟩, unpinned⟩,
      fun ⟨⟨⟨server, completed⟩, undeleted⟩, unpinned⟩ =>
        ⟨server, completed, undeleted, unpinned⟩⟩
  simp [retainable, List.mem_insertionSort, counted]

theorem retainable_nodup (serverId : Uuid) (db : Database) : (retainable serverId db).Nodup :=
  (List.perm_insertionSort _ _).nodup_iff.mpr (db.backups.unique.of_map.filter _)

theorem retainable_sorted (serverId : Uuid) (db : Database)
    : (retainable serverId db).Pairwise (fun newer older => older.createdAt ≤ newer.createdAt) :=
  haveI : Std.Total (fun newer older : Backup => older.createdAt ≤ newer.createdAt) :=
    ⟨fun newer older => le_total older.createdAt newer.createdAt⟩
  haveI : IsTrans Backup (fun newer older => older.createdAt ≤ newer.createdAt) :=
    ⟨fun _ _ _ first second => le_trans second first⟩
  List.pairwise_insertionSort _ _

/-- A retention divides the counted backups: as many as it has to keep stay, none of them older
than one that goes.
-/
structure DividesByAge (task : BackupTask) (retentionCount : Option Int) (db : Database)
    : Prop where
  members
    : ∀ backup, backup ∈ newestBackups task retentionCount db
        ∨ backup ∈ excessBackups task retentionCount db
      ↔ backup ∈ db.backups.rows ∧ Counted task.server.id backup
  apart
    : ∀ backup ∈ newestBackups task retentionCount db,
      backup ∉ excessBackups task retentionCount db
  newer
    : ∀ kept ∈ newestBackups task retentionCount db,
      ∀ removed ∈ excessBackups task retentionCount db, removed.createdAt ≤ kept.createdAt
  count
    : (newestBackups task retentionCount db).length
      = min (keepCount retentionCount task.backupRetentionCount).toNat
        (retainable task.server.id db).length

theorem dividesByAge (task : BackupTask) (retentionCount : Option Int) (db : Database)
    : DividesByAge task retentionCount db where
  members backup := by
    rw [newestBackups, excessBackups, ← List.mem_append, List.take_append_drop, mem_retainable]
  apart backup kept removed := by
    have once := retainable_nodup task.server.id db
    rw [← List.take_append_drop (keepCount retentionCount task.backupRetentionCount).toNat
      (retainable task.server.id db)] at once
    exact List.disjoint_of_nodup_append once kept removed
  newer kept keeps removed removes := by
    have sorted := retainable_sorted task.server.id db
    rw [← List.take_append_drop (keepCount retentionCount task.backupRetentionCount).toNat
      (retainable task.server.id db)] at sorted
    exact (List.pairwise_append.mp sorted).2.2 kept keeps removed removes
  count := List.length_take

-- What is touched

/-- Only the rows and files of some backups differ. -/
structure TouchesOnly (picked : List Uuid) (before after : StoredBackups) : Prop where
  restores : after.db.restoreJobs = before.db.restoreJobs
  rows : ∀ id, id ∉ picked → after.db.backups.get? id = before.db.backups.get? id
  files : ∀ server id, id ∉ picked → after.artifacts server id = before.artifacts server id

namespace TouchesOnly

variable {picked : List Uuid} {before middle after : StoredBackups}

theorem refl (stored : StoredBackups) : TouchesOnly picked stored stored :=
  ⟨rfl, fun _ _ => rfl, fun _ _ _ => rfl⟩

theorem trans (first : TouchesOnly picked before middle)
    (later : TouchesOnly picked middle after)
    : TouchesOnly picked before after :=
  ⟨later.restores.trans first.restores,
    fun id other => (later.rows id other).trans (first.rows id other),
    fun server id other => (later.files server id other).trans (first.files server id other)⟩

theorem change_files {serverId backupId : Uuid} (member : backupId ∈ picked)
    (f : StoredArtifact → StoredArtifact) (stored : StoredBackups)
    : TouchesOnly picked stored ⟨stored.db, stored.artifacts.change serverId backupId f⟩ := by
  refine ⟨rfl, fun _ _ => rfl, ?_⟩
  intro server id other
  have differs : id ≠ backupId := fun same => other (same ▸ member)
  exact Artifacts.change_other f stored.artifacts differs

theorem change_row {backupId : Uuid} (member : backupId ∈ picked) (change : Change Backup.id)
    (stored : StoredBackups)
    : TouchesOnly picked stored ⟨changeBackup backupId change stored.db, stored.artifacts⟩ := by
  refine ⟨rfl, ?_, fun _ _ _ => rfl⟩
  intro id other
  have differs : id ≠ backupId := fun same => other (same ▸ member)
  exact (Table.get?_modify _ _ _ _).trans (if_neg differs)

end TouchesOnly

/-- Changes of rows that a session has not committed yet touch only some backups. -/
def MarksOnly (picked : List Uuid) (changes : Database → Database) : Prop :=
  ∀ stored : StoredBackups, TouchesOnly picked stored ⟨changes stored.db, stored.artifacts⟩

theorem marksOnly_id (picked : List Uuid) : MarksOnly picked id := TouchesOnly.refl

inductive RemovalStep (picked : List Uuid) : BackupStep → Prop where
  | archive {backupId : Uuid} (member : backupId ∈ picked)
      : RemovalStep picked (.removeArchive backupId)
  | checksum {backupId : Uuid} (member : backupId ∈ picked)
      : RemovalStep picked (.removeChecksum backupId)
  | commit : RemovalStep picked (.commit .retention)

theorem mem_retentionSteps {db : Database} {step : BackupStep}
    (member : step ∈ retentionSteps task retentionCount db)
    : RemovalStep ((excessBackups task retentionCount db).map Backup.id) step := by
  rcases List.mem_append.mp member with removal | last
  · obtain ⟨backup, excess, listed⟩ := List.mem_flatMap.mp removal
    have picked : backup.id ∈ (excessBackups task retentionCount db).map Backup.id :=
      List.mem_map_of_mem excess
    simp only [List.mem_cons, List.not_mem_nil, or_false] at listed
    rcases listed with rfl | rfl
    · exact .archive picked
    · exact .checksum picked
  · cases List.mem_singleton.mp last
    exact .commit

theorem RemovalStep.touches {picked : List Uuid} {step : BackupStep}
    (removal : RemovalStep picked step) (task : BackupTask)
    (marks : MarksOnly picked state.work.changes)
    : TouchesOnly picked state.kept (task.effect step state).kept
      ∧ MarksOnly picked (task.effect step state).work.changes := by
  cases removal with
  | archive member =>
      exact ⟨TouchesOnly.change_files member (fun stored => { stored with archive := none })
        state.kept, marks⟩
  | checksum member =>
      refine ⟨TouchesOnly.change_files member (fun stored => { stored with checksum := none })
        state.kept, ?_⟩
      intro stored
      exact (marks stored).trans (TouchesOnly.change_row member _ _)
  | commit => exact ⟨marks state.kept, marksOnly_id picked⟩

/-- So do some of its steps, by induction on them. -/
theorem advance_touches {picked : List Uuid} {steps : List BackupStep}
    (removals : ∀ step ∈ steps, RemovalStep picked step)
    (marks : MarksOnly picked state.work.changes)
    : TouchesOnly picked state.kept (advance task.effect steps state).kept := by
  induction steps generalizing state with
  | nil => exact TouchesOnly.refl _
  | cons step rest ih =>
      obtain ⟨removal, later⟩ := List.forall_mem_cons.mp removals
      obtain ⟨first, marked⟩ := removal.touches task marks
      exact first.trans (ih later marked)

-- What is removed

/-- What a retention leaves of what is stored, with or without a failure. -/
def retained (task : BackupTask) (retentionCount : Option Int) (stored : StoredBackups)
    : StoredBackups :=
  (finalState (applyBackupRetention task retentionCount
    { work := { committed := stored.db }, artifacts := stored.artifacts })).kept

/-- A backup is gone: its row is marked, and its archive and its checksum file are removed. -/
structure Removed (now : Instant) (serverId : Uuid) (backup : Backup) (stored : StoredBackups)
    : Prop where
  row : stored.db.backups.get? backup.id = some ((deleteBackupRow now).apply backup)
  archive : (stored.artifacts serverId backup.id).archive = none
  checksum : (stored.artifacts serverId backup.id).checksum = none

theorem RemovalStep.touches_seen {picked : List Uuid} {step : BackupStep}
    (removal : RemovalStep picked step) (task : BackupTask)
    : TouchesOnly picked state.seen (task.effect step state).seen := by
  cases removal with
  | archive member =>
      exact TouchesOnly.change_files member (fun stored => { stored with archive := none }) _
  | checksum member =>
      exact (TouchesOnly.change_files member (fun stored => { stored with checksum := none })
        state.seen).trans (TouchesOnly.change_row member _ _)
  | commit => exact .refl _

/-- So do some of its steps, by induction on them. -/
theorem advance_touches_seen {picked : List Uuid} {steps : List BackupStep}
    (removals : ∀ step ∈ steps, RemovalStep picked step)
    : TouchesOnly picked state.seen (advance task.effect steps state).seen := by
  induction steps generalizing state with
  | nil => exact .refl _
  | cons step rest ih =>
      obtain ⟨removal, later⟩ := List.forall_mem_cons.mp removals
      exact (removal.touches_seen task).trans (ih later)

theorem removal_removes {backup : Backup}
    (own : state.work.current.backups.get? backup.id = some backup)
    : Removed task.now task.server.id backup
        (task.effect (.removeChecksum backup.id)
          (task.effect (.removeArchive backup.id) state)).seen := by
  refine ⟨?_, ?_, ?_⟩
  · refine ((Table.get?_modify _ _ _ _).trans (if_pos rfl)).trans ?_
    exact congrArg (Option.map (deleteBackupRow task.now).apply) own
  all_goals
    simp [BackupTask.effect, BackupTask.keep, BackupState.seen, Artifacts.change_own]

theorem Removed.kept {now : Instant} {serverId : Uuid} {backup : Backup}
    {before after : StoredBackups} {picked : List Uuid}
    (removed : Removed now serverId backup before) (touches : TouchesOnly picked before after)
    (other : backup.id ∉ picked)
    : Removed now serverId backup after := by
  have files := touches.files serverId backup.id other
  exact ⟨(touches.rows backup.id other).trans removed.row,
    (congrArg StoredArtifact.archive files).trans removed.archive,
    (congrArg StoredArtifact.checksum files).trans removed.checksum⟩

/-- The steps for some backups remove all of them, by induction on them. -/
theorem removals_remove {excess : List Backup} (once : (excess.map Backup.id).Nodup)
    (stored
      : ∀ backup ∈ excess, state.work.current.backups.get? backup.id = some backup)
    : ∀ backup ∈ excess,
      Removed task.now task.server.id backup
        (advance task.effect (removalSteps excess) state).seen := by
  induction excess generalizing state with
  | nil => exact fun _ member => absurd member List.not_mem_nil
  | cons backup rest ih =>
      obtain ⟨first, others⟩ := List.nodup_cons.mp once
      obtain ⟨own, later⟩ := List.forall_mem_cons.mp stored
      intro other member
      rcases List.mem_cons.mp member with rfl | member
      · -- the steps for the other backups leave this one as it is then
        refine (removal_removes own).kept (advance_touches_seen ?_) first
        intro step listed
        obtain ⟨backup, excess, listed⟩ := List.mem_flatMap.mp listed
        have picked : backup.id ∈ rest.map Backup.id := List.mem_map_of_mem excess
        simp only [List.mem_cons, List.not_mem_nil, or_false] at listed
        rcases listed with rfl | rfl
        · exact .archive picked
        · exact .checksum picked
      · refine ih others ?_ other member
        intro another listed
        have differs : another.id ≠ backup.id :=
          fun same => first (same ▸ List.mem_map_of_mem listed)
        exact ((Table.get?_modify _ _ _ _).trans (if_neg differs)).trans (later another listed)

/-- What a retention keeps and removes. -/
structure RetainsNewest (task : BackupTask) (retentionCount : Option Int)
    (before : StoredBackups)
    : Prop where
  divides : DividesByAge task retentionCount before.db
  untouched
    : ∀ backup ∈ before.db.backups.rows, backup ∉ excessBackups task retentionCount before.db
      → (retained task retentionCount before).db.backups.get? backup.id = some backup
        ∧ ∀ serverId, (retained task retentionCount before).artifacts serverId backup.id
          = before.artifacts serverId backup.id
  removed
    : AllPass task.raises (retentionSteps task retentionCount before.db)
      → ∀ backup ∈ excessBackups task retentionCount before.db,
        Removed task.now task.server.id backup (retained task retentionCount before)

theorem mem_rows_of_excess {db : Database} {backup : Backup}
    (excess : backup ∈ excessBackups task retentionCount db)
    : backup ∈ db.backups.rows :=
  (mem_retainable.mp (List.mem_of_mem_drop excess)).1

theorem id_notMem_excess {db : Database} {backup : Backup} (stored : backup ∈ db.backups.rows)
    (stays : backup ∉ excessBackups task retentionCount db)
    : backup.id ∉ (excessBackups task retentionCount db).map Backup.id := by
  intro listed
  obtain ⟨other, excess, same⟩ := List.mem_map.mp listed
  exact stays (db.backups.eq_of_key_eq (mem_rows_of_excess excess) stored same ▸ excess)

theorem retained_touches (task : BackupTask) (retentionCount : Option Int)
    (stored : StoredBackups)
    : TouchesOnly ((excessBackups task retentionCount stored.db).map Backup.id) stored
        (retained task retentionCount stored) := by
  let start : BackupState :=
    { work := { committed := stored.db }, artifacts := stored.artifacts }
  have performs : Performs task.raises task.effect task.breaks
      (retentionSteps task retentionCount start.work.committed) start
      (applyBackupRetention task retentionCount) :=
    performs_applyBackupRetention retentionCount rfl
  have clean : MarksOnly ((excessBackups task retentionCount stored.db).map Backup.id)
      start.work.changes :=
    marksOnly_id _
  have touches {steps : List BackupStep}
      (known : ∀ step ∈ steps, step ∈ retentionSteps task retentionCount stored.db)
      : TouchesOnly ((excessBackups task retentionCount stored.db).map Backup.id) stored
          (advance task.effect steps start).kept :=
    advance_touches (fun step member => mem_retentionSteps (known step member)) clean
  unfold retained
  rcases allPass_or_firstRaise task.raises (retentionSteps task retentionCount stored.db)
    with passes | ⟨before, step, failure, first⟩
  · rw [performs.passes passes]
    exact touches fun _ member => member
  · rw [performs.fails first]
    have kept := breaks_kept task step (advance task.effect before start)
    exact kept ▸ touches fun _ member => first.mem_before member

theorem retained_removes {stored : StoredBackups}
    (passes : AllPass task.raises (retentionSteps task retentionCount stored.db))
    : ∀ backup ∈ excessBackups task retentionCount stored.db,
      Removed task.now task.server.id backup (retained task retentionCount stored) := by
  let start : BackupState :=
    { work := { committed := stored.db }, artifacts := stored.artifacts }
  have usable : start.work.usable = true := rfl
  have ran : applyBackupRetention task retentionCount start
      = .ok () (advance task.effect (retentionSteps task retentionCount stored.db) start) :=
    (performs_applyBackupRetention retentionCount usable).passes passes
  have left : retained task retentionCount stored
      = (advance task.effect (removalSteps (excessBackups task retentionCount stored.db))
          start).seen := by
    have final : retained task retentionCount stored
        = (advance task.effect (retentionSteps task retentionCount stored.db) start).kept :=
      congrArg (fun outcome => BackupState.kept (finalState outcome)) ran
    rw [final, retentionSteps, advance_append]
    rfl
  have once : ((excessBackups task retentionCount stored.db).map Backup.id).Nodup := by
    refine List.Nodup.map_on ?_ ((retainable_nodup _ _).sublist (List.drop_sublist _ _))
    intro first listed second member same
    exact stored.db.backups.eq_of_key_eq (mem_rows_of_excess listed) (mem_rows_of_excess member)
      same
  rw [left]
  exact removals_remove once fun backup excess => Table.get?_of_mem (mem_rows_of_excess excess)

theorem retainsNewest (task : BackupTask) (retentionCount : Option Int) (before : StoredBackups)
    : RetainsNewest task retentionCount before where
  divides := dividesByAge task retentionCount before.db
  untouched backup stored stays := by
    have touches := retained_touches task retentionCount before
    have other := id_notMem_excess stored stays
    exact ⟨(touches.rows _ other).trans (Table.get?_of_mem stored),
      fun serverId => touches.files serverId _ other⟩
  removed := retained_removes

end Blockhost.JobRuns
